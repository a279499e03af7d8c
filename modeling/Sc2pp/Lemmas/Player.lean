import Sc2pp.Lemmas.Game
import Sc2pp.Lemmas.Survival

/-!
This module contains the test agent as the agent of the program of the tests. Its random numbers become
a part of its state: the dice of all updates to come. Every game the program plays is a run of the test
agent, so what holds in every run holds of what the program sends.
-/

namespace Sc2

open SC2Client

structure Player where
  agent : TestAgent
  rolls : Nat → Dice

namespace Player

def new (rolls : Nat → Dice) : Player where
  agent := {}
  rolls := rolls

def update (player : Player) (obs : Observation) : Agent.Program Player := do
  let agent ← player.agent.update (player.rolls 0) obs
  return { agent := agent, rolls := fun i => player.rolls (i + 1) }

def steps : (Nat → Dice) → List Turn → List TestAgent.Step
  | _, [] => []
  | rolls, turn :: turns =>
    { obs := turn.obs, dice := rolls 0, intents := turn.intents } ::
      steps (fun i => rolls (i + 1)) turns

theorem update_plays {player player' : Player} {obs : Observation} {intents : List Agent.Intent}
    (h : Agent.Plays [] (player.update obs) intents player')
    : Agent.Plays [] (player.agent.update (player.rolls 0) obs) intents player'.agent ∧
        player'.rolls = fun i => player.rolls (i + 1) := by
  unfold update at h
  rcases Agent.plays_bind_iff.mp h with ⟨agent, intents₁, intents₂, h₁, h₂, rfl⟩
  cases h₂
  rw [List.append_nil]
  exact ⟨h₁, rfl⟩

theorem runs_of_turns {agent agent' : Agent Player} {turns : List Turn} {log : Exchanges}
    (hupdate : agent.update = update) (h : Turns agent turns log agent')
    : TestAgent.Runs agent.state.agent (steps agent.state.rolls turns) agent'.state.agent := by
  induction h with
  | nil agent => exact .nil _
  | cons hturn _ ih =>
    have hplays := hturn.steps.plays
    rw [hupdate] at hplays
    rcases update_plays hplays with ⟨hplays, hrolls⟩
    rw [hturn.steps.same.2] at ih
    have hrest := ih hupdate
    rw [hrolls] at hrest
    exact .cons hplays hrest

def Playable (obs : Observation) : Prop :=
  obs.unitsSelf.filter (type .protossNexus) ≠ [] ∧
    (TestAgent.idleProbes obs = [] ∨ TestAgent.nearMinerals obs ≠ [])

theorem update_completes {player : Player} {obs : Observation} (h : Playable obs)
    : (player.update obs).Completes := by
  apply Agent.Program.Safe.completes
  have hagent := TestAgent.update_safe h.1 (player.rolls 0) player.agent h.2
  exact hagent.bind fun agent => .pure _

theorem main_succeeds (rolls : Nat → Dice) {id : UInt32} (hid : id ≠ -1) (rounds : Nat)
    : (Main.main (new rolls) update rounds).Succeeds (Hosts Playable id) (Ending.PlayedBy id) := by
  apply Main.main_succeeds (new rolls) hid
  intro player obs h
  apply update_completes h

def ownNexus : Proto.Unit where
  tag := some 4
  alliance := some .self
  unitType := some UnitTypeId.protossNexus.val.toUInt32
  buildProgress := some 1

def campaign (rounds : Nat) (before : Exchanges) (request : Proto.Request)
    : Option Proto.Response :=
  match request.payload with
  | some .observation =>
    some {
      payload := some (.observation {
        Proto.ResponseObservation.ofUnits [ownNexus] with
        playerResult :=
          if before.countP (·.1 == observationRequest) + 1 < rounds then []
          else [{ playerId := some 1 }]
      })
    }
  | _ => Main.host rounds before request

theorem playable_of_update {response : Proto.ResponseObservation} {obs obs' : Observation}
    (hunits : response.units = [ownNexus]) (h : obs.update response = .ok obs') : Playable obs' := by
  simp only [Observation.update, UnitPool.update, Outcome.bind_eq_ok, Outcome.pure_eq_ok,
    Except.ok.injEq] at h
  rcases h with ⟨⟨units, commands, errors⟩, hconvert, pooled, ⟨damaged, -, rfl⟩, rfl⟩
  unfold convertObservation at hconvert
  rw [hunits] at hconvert
  have hseen : units = [ownNexus.withOrders []] := by
    cases hconvert
    rfl
  subst hseen
  refine ⟨?_, .inl ?_⟩
  . simp only [Observation.unitsSelf]
    decide
  . simp only [TestAgent.idleProbes, Observation.unitsSelf]
    decide

theorem campaign_hosts (rounds : Nat) (before : Exchanges) (request : Proto.Request)
    : Hosts Playable 1 (request, campaign rounds before request) := by
  intro payload hpayload
  have hhost := Main.host_hosts rounds before request payload hpayload
  rcases request with ⟨_ | _⟩
  . cases hpayload
  . cases hpayload
    cases payload with
    | observation =>
      refine ⟨_, rfl, ?_, ?_, ?_⟩
      . simp [Proto.ResponseObservation.OrdersNamed, Proto.ResponseObservation.units,
          Proto.ResponseObservation.ofUnits, ownNexus]
      . simp only
        split
        . exact .inl rfl
        . exact .inr ⟨_, List.mem_singleton.mpr rfl, rfl⟩
      . intro obs obs' hupdate
        apply playable_of_update rfl hupdate
    | _ => exact hhost

theorem main_plays (rolls : Nat → Dice) {id : UInt32} (hid : id ≠ -1)
    {serve : Exchanges → Proto.Request → Option Proto.Response}
    (hserve : ∀ before request, Hosts Playable id (request, serve before request)) (rounds : Nat)
    : ∃ log ending, Dialogue.Runs (Main.main (new rolls) update rounds) log (.ok ending) ∧
        Dialogue.AnsweredBy serve log ∧ ending.PlayedBy id := by
  exact (main_succeeds rolls hid rounds).exists_run hserve

theorem main_plays_campaign
    : ∃ log ending, Dialogue.Runs (Main.main (new fun _ => TestAgent.calmDice) update 3) log
          (.ok ending) ∧
        Dialogue.AnsweredBy (campaign 2) log ∧ ending.PlayedBy 1 := by
  exact main_plays _ (by decide : (1 : UInt32) ≠ -1) (campaign_hosts 2) 3

theorem main_runs {rolls : Nat → Dice} {rounds : Nat} {log : Exchanges} {ending : Ending}
    (h : Dialogue.Runs (Main.main (new rolls) update rounds) log (.ok ending))
    (hplayed : ending.Played)
    : ∃ setup played agent turns agent', log = setup ++ played ∧
        Joins setup (new rolls) update agent ∧ Turns agent turns played agent' ∧
        TestAgent.Runs {} (steps rolls turns) agent'.state.agent := by
  rcases Main.tryMain_turns (Main.main_played h hplayed) hplayed
    with ⟨setup, played, agent, turns, agent', rfl, hjoins, hturns, -⟩
  refine ⟨setup, played, agent, turns, agent', rfl, hjoins, hturns, ?_⟩
  have hruns := runs_of_turns hjoins.update hturns
  rwa [hjoins.state] at hruns

theorem main_runs_campaign
    : ∃ log ending, Dialogue.Runs (Main.main (new fun _ => TestAgent.calmDice) update 3) log
          (.ok ending) ∧
        ∃ setup played agent turns agent', log = setup ++ played ∧
          Joins setup (new fun _ => TestAgent.calmDice) update agent ∧
          Turns agent turns played agent' ∧
          TestAgent.Runs {} (steps (fun _ => TestAgent.calmDice) turns) agent'.state.agent := by
  rcases (main_succeeds (fun _ => TestAgent.calmDice) (by decide : (1 : UInt32) ≠ -1) 3).exists_run
    (campaign_hosts 2) with ⟨log, ending, hruns, -, hplayed⟩
  exact ⟨log, ending, hruns, main_runs hruns hplayed.played⟩

end Player

end Sc2
