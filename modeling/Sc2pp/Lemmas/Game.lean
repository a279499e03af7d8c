import Sc2pp.Lemmas.Completion

/-!
This module contains a whole game as the program of the tests plays it: what it sends to set the game
up, the turns it plays and the result it ends with.
-/

namespace Sc2

variable {σ : Type}

open SC2Client

namespace SC2Client

def Turn.Gives (turn : Turn) (id : UInt32) (result : Option Proto.PlayerResult) : Prop :=
  (result = none ∧ turn.response.playerResult = []) ∨
    ∃ res, result = some res ∧
      turn.response.playerResult.find? (fun res => res.playerId.getD 0 == id) = some res

theorem update_gives {client client' : SC2Client σ} {agent : Agent σ}
    (hagent : client.agent = some agent) (hact : agent.sc2.act = {}) {log : Exchanges}
    {result : Option Proto.PlayerResult}
    (h : Dialogue.Runs client.update log (.ok (result, client')))
    : ∃ turn : Turn, ∃ agent', turn.Of agent log agent' ∧ client'.agent = some agent' ∧
        turn.Gives agent.id result := by
  rcases update_turn hagent hact h with ⟨turn, agent', hturn, hagent'⟩
  refine ⟨turn, agent', hturn, hagent', ?_⟩
  rcases hturn.answered with ⟨reply, hreply, hresponse⟩
  rw [update_eq hagent] at h
  rcases Dialogue.runs_bind_ok h with ⟨⟨simulationLoop, response⟩, log₁, _, hstep, hrest, rfl⟩
  rcases Dialogue.runs_bind_ok hrest with ⟨⟨actions, agent₁⟩, log₂, log₃, hagentStep, hsend, rfl⟩
  rcases Dialogue.runs_asking_iff.mp hsend with ⟨reply₃, rfl, hfinish⟩
  rcases step_ok hstep with ⟨reply₁, reply₂, rfl, hobservation⟩
  have hsame : turn.response = response := by
    simp only [List.cons_append, List.getElem?_cons_succ, List.getElem?_cons_zero,
      Option.some.injEq, Prod.mk.injEq] at hreply
    rw [← hreply.2, hobservation, Option.some.injEq] at hresponse
    exact hresponse.symm
  have hid : agent₁.id = agent.id := by
    rcases Agent.step_spec hact hagentStep with ⟨obs, intents, hsteps, -⟩
    exact hsteps.same.1
  unfold Turn.Gives
  rw [hsame, ← hid]
  apply finish_result hfinish.symm

end SC2Client

def Ending.Concludes (id : UInt32) (rounds : Nat) (turns : List Turn) : Ending → Prop
  | playing => turns.length = rounds ∧ ∀ turn ∈ turns, turn.response.playerResult = []
  | finished res => turns.length ≤ rounds ∧ ∃ before last, turns = before ++ [last] ∧
      (∀ turn ∈ before, turn.response.playerResult = []) ∧
      last.response.playerResult.find? (fun res => res.playerId.getD 0 == id) = some res
  | _ => False

def Ending.ofResult : Option Proto.PlayerResult → Ending
  | some res => finished res
  | none => playing

theorem Ending.Concludes.cons {id : UInt32} {rounds : Nat} {turn : Turn} {turns : List Turn}
    {result : Option Proto.PlayerResult} (hturn : turn.response.playerResult = [])
    (h : (ofResult result).Concludes id rounds turns)
    : (ofResult result).Concludes id (rounds + 1) (turn :: turns) := by
  cases result with
  | none =>
    refine ⟨by rw [List.length_cons, h.1], ?_⟩
    rw [List.forall_mem_cons]
    exact ⟨hturn, h.2⟩
  | some res =>
    rcases h with ⟨hlength, before, last, rfl, hbefore, hlast⟩
    refine ⟨by rw [List.length_cons]; omega, turn :: before, last, rfl, ?_, hlast⟩
    rw [List.forall_mem_cons]
    exact ⟨hturn, hbefore⟩

namespace SC2Client

theorem play_turns {client client' : SC2Client σ} {agent : Agent σ}
    (hagent : client.agent = some agent) (hact : agent.sc2.act = {}) {rounds : Nat}
    {log : Exchanges} {result : Option Proto.PlayerResult}
    (h : Dialogue.Runs (client.play rounds) log (.ok (result, client')))
    : ∃ turns agent', Turns agent turns log agent' ∧
        (Ending.ofResult result).Concludes agent.id rounds turns := by
  induction rounds generalizing client agent log with
  | zero =>
    simp only [play, Dialogue.runs_pure_iff, Except.ok.injEq, Prod.mk.injEq] at h
    rcases h with ⟨rfl, rfl, -⟩
    exact ⟨[], agent, .nil agent, rfl, by simp⟩
  | succ rounds ih =>
    unfold play at h
    rcases Dialogue.runs_bind_ok h with ⟨⟨res, client₁⟩, log₁, log₂, hupdate, hrest, rfl⟩
    rcases update_gives hagent hact hupdate with ⟨turn, agent₁, hturn, hagent₁, hgives⟩
    rcases hgives with ⟨rfl, hnone⟩ | ⟨res, rfl, hres⟩
    . have hact₁ : agent₁.sc2.act = {} := by
        rw [hturn.steps.sc2]
      rcases ih hagent₁ hact₁ hrest with ⟨turns, agent', hturns, hconcludes⟩
      rw [hturn.steps.same.1] at hconcludes
      exact ⟨turn :: turns, agent', .cons hturn hturns, hconcludes.cons hnone⟩
    . simp only [Option.isSome_some, if_true, Dialogue.runs_pure_iff, Except.ok.injEq,
        Prod.mk.injEq] at hrest
      rcases hrest with ⟨rfl, rfl, -⟩
      refine ⟨[turn], agent₁, .cons hturn (.nil _), ?_, [], turn, rfl, by simp, hres⟩
      rw [List.length_singleton]
      omega

-- The order of the three is that of the arguments of one call, which the language leaves open.
def Loads (requests : List Proto.Request) : Prop :=
  requests.Perm [
    gameInfoRequest,
    dataRequest { unitTypeId := some true },
    dataRequest { abilityId := some true }
  ]

structure Joins (log : Exchanges) (state : σ) (update : σ → Observation → Agent.Program σ)
    (agent : Agent σ) : Prop where
  requests : ∃ loads, Loads loads ∧
    log.map Prod.fst = [pingRequest, createGameRequest, joinGameRequest .protoss] ++ loads
  joined : ∃ reply response, log[2]? = some (joinGameRequest .protoss, some reply) ∧
    reply.joinGame? = some response ∧ response.error = none ∧ response.playerId.getD 0 = agent.id
  state : agent.state = state
  update : agent.update = update
  act : agent.sc2.act = {}

theorem joinGame_ok {race : Race} {log : Exchanges} {id : UInt32}
    (h : Dialogue.Runs (joinGame race) log (.ok id)) (hid : (id == -1) = false)
    : ∃ reply response, log = [(joinGameRequest race, some reply)] ∧
        reply.joinGame? = some response ∧ response.error = none ∧
        response.playerId.getD 0 = id := by
  rw [joinGame_eq, Dialogue.runs_asking_iff] at h
  rcases h with ⟨reply, rfl, h⟩
  unfold joinGameOf at h
  split at h
  . cases h
    cases hid
  . next response =>
    split at h
    . cases h
      cases hid
    . next joined hjoined =>
      cases herror : joined.error with
      | none =>
        simp only [herror, Option.isSome_none, Bool.false_eq_true, if_false,
          Except.ok.injEq] at h
        exact ⟨response, joined, rfl, hjoined, herror, h.symm⟩
      | some error =>
        simp only [herror, Option.isSome_some, if_true, Except.ok.injEq] at h
        rw [h] at hid
        cases hid

theorem createContext_ok {log : Exchanges} {context : SC2Context}
    (h : Dialogue.Runs createContext log (.ok context))
    : Loads (log.map Prod.fst) ∧ context.act = {} := by
  unfold createContext getUnitTypeData getAbilityData at h
  rw [getGameInfo_eq, getData_eq, getData_eq] at h
  rcases Dialogue.runs_bind_ok h with ⟨gameInfo, _, _, h₁, hunits, rfl⟩
  rcases Dialogue.runs_bind_ok hunits with ⟨unitTypeData, _, _, h₂, habilities, rfl⟩
  rcases Dialogue.runs_bind_ok habilities with ⟨abilityData, _, _, h₃, hcontext, rfl⟩
  rcases Dialogue.runs_asking_iff.mp h₁ with ⟨reply₁, rfl, -⟩
  rcases Dialogue.runs_asking_iff.mp h₂ with ⟨reply₂, rfl, -⟩
  rcases Dialogue.runs_asking_iff.mp h₃ with ⟨reply₃, rfl, -⟩
  cases hnew : SC2Context.new (Observation.new gameInfo unitTypeData abilityData) with
  | error fault =>
    rw [hnew] at hcontext
    cases (Dialogue.runs_done_iff.mp hcontext).2
  | ok context' =>
    rw [hnew] at hcontext
    rcases Dialogue.runs_done_iff.mp hcontext with ⟨rfl, heq⟩
    cases heq
    exact ⟨.refl _, new_act hnew⟩

theorem joinGameAs_ok {client client' : SC2Client σ} {state : σ}
    {update : σ → Observation → Agent.Program σ} {log : Exchanges}
    (h : Dialogue.Runs (client.joinGameAs state update) log (.ok (true, client')))
    : ∃ (agent : Agent σ) (reply : Proto.Response) (response : Proto.ResponseJoinGame)
        (loaded : Exchanges),
        client'.agent = some agent ∧ log = (joinGameRequest .protoss, some reply) :: loaded ∧
        reply.joinGame? = some response ∧ response.error = none ∧
        response.playerId.getD 0 = agent.id ∧ Loads (loaded.map Prod.fst) ∧
        agent.state = state ∧ agent.update = update ∧ agent.sc2.act = {} := by
  unfold joinGameAs at h
  rcases Dialogue.runs_bind_ok h with ⟨id, log₁, log₂, hjoin, hrest, rfl⟩
  split at hrest
  . simp at hrest
  . next hid =>
    rcases joinGame_ok hjoin (by simpa using hid) with ⟨reply, response, rfl, hresponse, herror, hplayer⟩
    rcases Dialogue.runs_bind_ok hrest with ⟨context, log₃, log₄, hcontext, hpure, rfl⟩
    rcases createContext_ok hcontext with ⟨hrequests, hact⟩
    rcases Dialogue.runs_pure_iff.mp hpure with ⟨rfl, hclient⟩
    cases hclient
    rw [List.append_nil, List.singleton_append]
    exact ⟨_, reply, response, log₃, rfl, rfl, hresponse, herror, hplayer, hrequests, rfl, rfl, hact⟩

end SC2Client

namespace Main

theorem tryMain_turns {state : σ} {update : σ → Observation → Agent.Program σ} {rounds : Nat}
    {log : Exchanges} {ending : Ending}
    (h : Dialogue.Runs (tryMain state update rounds) log (.ok ending)) (hplayed : ending.Played)
    : ∃ setup played agent turns agent', log = setup ++ played ∧ Joins setup state update agent ∧
        Turns agent turns played agent' ∧ ending.Concludes agent.id rounds turns := by
  unfold tryMain at h
  rw [ping_eq, createGame_eq] at h
  rcases Dialogue.runs_bind_ok h with ⟨pong, _, _, hping, hcreates, rfl⟩
  rcases Dialogue.runs_bind_ok hcreates with ⟨created, _, _, hcreate, hjoins, rfl⟩
  rcases Dialogue.runs_asking_iff.mp hping with ⟨reply₁, rfl, -⟩
  rcases Dialogue.runs_asking_iff.mp hcreate with ⟨reply₂, rfl, -⟩
  split at hjoins
  . cases (Dialogue.runs_pure_iff.mp hjoins).2
    exact hplayed.elim
  . rcases Dialogue.runs_bind_ok hjoins with ⟨⟨joined, client⟩, log₃, log₄, hjoin, hplays, rfl⟩
    cases joined with
    | false =>
      cases (Dialogue.runs_pure_iff.mp hplays).2
      exact hplayed.elim
    | true =>
      rcases joinGameAs_ok hjoin with ⟨agent, reply, response, loaded, hagent, rfl, hresponse,
        herror, hplayer, hrequests, hstate, hupdate, hact⟩
      rcases Dialogue.runs_bind_ok hplays with ⟨⟨res, client'⟩, log₅, log₆, hplay, hend, rfl⟩
      rcases play_turns hagent hact hplay with ⟨turns, agent', hturns, hconcludes⟩
      have hpure : log₆ = [] ∧ ending = .ofResult res := by
        cases res with
        | none =>
          rcases Dialogue.runs_pure_iff.mp hend with ⟨hnil, hending⟩
          exact ⟨hnil, Except.ok.inj hending⟩
        | some res =>
          rcases Dialogue.runs_pure_iff.mp hend with ⟨hnil, hending⟩
          exact ⟨hnil, Except.ok.inj hending⟩
      rcases hpure with ⟨rfl, rfl⟩
      refine ⟨(pingRequest, reply₁) :: (createGameRequest, reply₂) ::
        (joinGameRequest .protoss, some reply) :: loaded, log₅, agent, turns, agent', by simp, ?_,
        hturns, hconcludes⟩
      constructor
      . exact ⟨_, hrequests, rfl⟩
      . exact ⟨reply, response, rfl, hresponse, herror, hplayer⟩
      . exact hstate
      . exact hupdate
      . exact hact

theorem main_played {state : σ} {update : σ → Observation → Agent.Program σ} {rounds : Nat}
    {log : Exchanges} {ending : Ending}
    (h : Dialogue.Runs (main state update rounds) log (.ok ending)) (hplayed : ending.Played)
    : Dialogue.Runs (tryMain state update rounds) log (.ok ending) := by
  unfold main at h
  rcases Dialogue.runs_bind_ok h with ⟨result, log₁, log₂, hattempt, hend, rfl⟩
  rcases Dialogue.runs_attempt_iff.mp hattempt with ⟨inner, heq, hinner⟩
  cases heq
  cases result with
  | ok ending' =>
    rcases Dialogue.runs_pure_iff.mp hend with ⟨rfl, hending⟩
    cases hending
    rw [List.append_nil]
    exact hinner
  | error fault =>
    cases fault with
    | exception what =>
      cases (Dialogue.runs_pure_iff.mp hend).2
      exact hplayed.elim
    | _ => cases (Dialogue.runs_fail_iff.mp hend).2

theorem main_turns {state : σ} {update : σ → Observation → Agent.Program σ} {rounds : Nat}
    {log : Exchanges} {ending : Ending}
    (h : Dialogue.Runs (main state update rounds) log (.ok ending)) (hplayed : ending.Played)
    : ∃ setup played agent turns agent', log = setup ++ played ∧ Joins setup state update agent ∧
        Turns agent turns played agent' ∧ ending.Concludes agent.id rounds turns := by
  apply tryMain_turns (main_played h hplayed) hplayed

theorem main_turns_host
    : ∃ log ending, Dialogue.Runs (main 0 greeter 3) log (.ok ending) ∧
        ∃ setup played agent turns agent', log = setup ++ played ∧ Joins setup 0 greeter agent ∧
          Turns agent turns played agent' ∧ ending.Concludes agent.id 3 turns := by
  rcases (main_succeeds 0 (by decide : (1 : UInt32) ≠ -1)
    (fun state obs _ => greeter_completes state obs) 3).exists_run (host_hosts 2)
    with ⟨log, ending, hruns, -, hplayed⟩
  exact ⟨log, ending, hruns, main_turns hruns hplayed.played⟩

end Main

end Sc2
