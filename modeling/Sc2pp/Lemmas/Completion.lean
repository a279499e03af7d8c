import Sc2pp.Lemmas.Main

/-!
This module contains when a game is played to its end. The game `Hosts` a client if it answers what it
is asked, lets the client join and never shows an observation that is not `playable`, which is up to the
agent. An agent `Completes` an update if it does so whenever its queries are answered.
-/

namespace Sc2

variable {σ : Type}

open SC2Client

def QueriesAnswered (e : Proto.Request × Option Proto.Response) : Prop :=
  ∀ request, e.1.payload = some (.query request) → Query.Answers request e.2

-- Either there is no result or it is the player's own.
def Ending.PlayedBy (id : UInt32) : Ending → Prop
  | finished res => res.playerId.getD 0 = id
  | playing => True
  | _ => False

theorem Ending.PlayedBy.played {id : UInt32} {ending : Ending} (h : ending.PlayedBy id)
    : ending.Played := by
  cases ending with
  | finished res => trivial
  | playing => trivial
  | _ => exact h.elim

namespace Agent

def Program.Completes (program : Program σ) : Prop :=
  ∀ actions, (program.run actions).Succeeds QueriesAnswered fun _ => True

theorem Program.Harmless.completes {program : Program σ} (h : program.Harmless)
    : program.Completes := by
  intro actions
  constructor
  intro log result hruns hlog
  rcases run_answered h hruns hlog with ⟨ended, hended⟩
  exact ⟨ended, hended, trivial⟩

structure Playing (playable : Observation → Prop) (id : UInt32) (agent : Agent σ) : Prop where
  id : agent.id = id
  act : agent.sc2.act = {}
  pool : ∃ prev, agent.sc2.obs.unitPool.Follows prev
  completes : ∀ state obs, playable obs → (agent.update state obs).Completes

end Agent

structure Shows (playable : Observation → Prop) (id : UInt32) (response : Proto.ResponseObservation)
    : Prop where
  named : response.OrdersNamed
  result : response.playerResult = [] ∨ ∃ res ∈ response.playerResult, res.playerId.getD 0 = id
  playable : ∀ obs obs' : Observation, obs.update response = .ok obs' → playable obs'

def HostsRequest (playable : Observation → Prop) (id : UInt32) (payload : Proto.Request.Payload)
    (reply : Option Proto.Response) : Prop :=
  match payload with
  | .createGame _ => ∃ response, reply = some response ∧ (response.createGame?.getD {}).error = none
  | .joinGame _ => ∃ response, reply.bind Proto.Response.joinGame? = some response ∧
      response.error = none ∧ response.playerId.getD 0 = id
  | .gameInfo => ∃ response info, reply = some response ∧
      (response.gameInfo?.getD {}).fromProto = .ok info ∧ Map.SameSize info
  | .step _ => (reply.bind Proto.Response.step?).isSome
  | .observation => ∃ response, reply.bind Proto.Response.observation? = some response ∧
      Shows playable id response
  | .query query => Query.Answers query reply
  | _ => reply.isSome

def Hosts (playable : Observation → Prop) (id : UInt32)
    (e : Proto.Request × Option Proto.Response) : Prop :=
  ∀ payload, e.1.payload = some payload → HostsRequest playable id payload e.2

variable {playable : Observation → Prop} {id : UInt32}

theorem Hosts.queriesAnswered {e : Proto.Request × Option Proto.Response}
    (h : Hosts playable id e) : QueriesAnswered e := by
  intro request hrequest
  exact h _ hrequest

namespace Agent

theorem step_succeeds {agent : Agent σ} (hagent : agent.Playing playable id)
    {response : Proto.ResponseObservation} (hshows : Shows playable id response)
    : (agent.step response).Succeeds (Hosts playable id) fun acted =>
        acted.2.Playing playable id := by
  rcases hagent.pool with ⟨prev, hpool⟩
  rcases convertObservation_exists hshows.named with ⟨units, hunits⟩
  have hupdate := Observation.update_of_pool ⟨_, _, hunits⟩ (UnitPool.update_eq hpool units)
  constructor
  intro log result h hlog
  have hok : ∃ acted, result = .ok acted := by
    unfold step SC2Context.update at h
    simp only [hupdate, Outcome.bind_ok, Outcome.pure_eq_ok, Dialogue.runs_lift_bind_ok] at h
    have hcompletes := hagent.completes agent.state _ (hshows.playable _ _ hupdate) agent.sc2.act
    rcases Dialogue.runs_bind_iff.mp h with ⟨ended, log₁, log₂, -, hpure, -⟩ | ⟨fault, hrun, -⟩
    . exact ⟨_, (Dialogue.runs_pure_iff.mp hpure).2⟩
    . rcases hcompletes.runs log _ hrun (fun e he => (hlog e he).queriesAnswered)
        with ⟨ended, heq, -⟩
      cases heq
  rcases hok with ⟨acted, rfl⟩
  rcases step_spec hagent.act h with ⟨obs, intents, hsteps, -⟩
  refine ⟨acted, rfl, ?_⟩
  constructor
  . rw [hsteps.same.1, hagent.id]
  . rw [hsteps.sc2]
  . rw [hsteps.sc2]
    exact ⟨_, (Observation.update_follows hsteps.observed).2⟩
  . rw [hsteps.same.2]
    exact hagent.completes

end Agent

namespace SC2Client

theorem step_succeeds
    : step.Succeeds (Hosts playable id) fun stepped => Shows playable id stepped.2 := by
  constructor
  intro log result h hlog
  rw [step_eq, Dialogue.runs_send_bind_iff] at h
  rcases h with ⟨reply₁, rest, rfl, h⟩
  have hstep := hlog (stepRequest, reply₁) List.mem_cons_self _ rfl
  rcases Option.isSome_iff_exists.mp hstep with ⟨responseStep, hresponse⟩
  simp only [hresponse, Dialogue.runs_asking_iff] at h
  rcases h with ⟨reply₂, rfl, rfl⟩
  rcases hlog (observationRequest, reply₂) (by simp) _ rfl with ⟨response, hobservation, hshows⟩
  exact ⟨_, observationOf_answered hobservation, hshows⟩

theorem finish_exists (client : SC2Client σ) {response : Proto.ResponseObservation} {agent : Agent σ}
    (hagent : agent.Playing playable id) (hshows : Shows playable id response)
    : ∃ finished, client.finish response agent = .ok finished ∧
        finished.2.agent = some agent ∧ ∀ res ∈ finished.1, res.playerId.getD 0 = id := by
  have hresult := hshows.result
  rw [← hagent.id] at hresult
  rcases finish_answered client hresult with ⟨finished, hfinish⟩
  refine ⟨finished, hfinish, finish_agent hfinish, ?_⟩
  intro res hres
  rcases finish_result hfinish with ⟨hnone, -⟩ | ⟨res', hsome, hfind⟩
  . rw [hnone] at hres
    cases hres
  . rw [hsome] at hres
    cases hres
    have hown := List.find?_some hfind
    rw [← hagent.id]
    exact beq_iff_eq.mp hown

theorem update_succeeds {client : SC2Client σ} {agent : Agent σ} (hclient : client.agent = some agent)
    (hagent : agent.Playing playable id)
    : client.update.Succeeds (Hosts playable id) fun updated =>
        (∀ res ∈ updated.1, res.playerId.getD 0 = id) ∧
          ∃ agent', updated.2.agent = some agent' ∧ agent'.Playing playable id := by
  rw [update_eq hclient]
  apply step_succeeds.bind
  intro stepped hshows
  apply (Agent.step_succeeds hagent hshows).bind
  intro acted hacted
  apply Dialogue.Succeeds.asking
  intro reply _
  rcases finish_exists client hacted hshows with ⟨finished, hfinish, hagent', hown⟩
  exact ⟨finished, hfinish, hown, acted.2, hagent', hacted⟩

theorem play_succeeds {client : SC2Client σ} {agent : Agent σ} (hclient : client.agent = some agent)
    (hagent : agent.Playing playable id) (rounds : Nat)
    : (client.play rounds).Succeeds (Hosts playable id) fun played =>
        ∀ res ∈ played.1, res.playerId.getD 0 = id := by
  induction rounds generalizing client agent with
  | zero =>
    apply Dialogue.Succeeds.pure
    intro res hres
    cases hres
  | succ rounds ih =>
    unfold play
    apply (update_succeeds hclient hagent).bind
    intro updated hupdated
    rcases hupdated with ⟨hown, agent', hclient', hagent'⟩
    simp only
    split
    . exact .pure hown
    . exact ih hclient' hagent'

theorem getData_succeeds {T : Type} (what : Proto.RequestData)
    (select : Proto.ResponseData → List T)
    : (getData what select).Succeeds (Hosts playable id) fun _ => True := by
  rw [getData_eq]
  apply Dialogue.Succeeds.asking
  intro reply hreply
  rcases Option.isSome_iff_exists.mp (hreply _ rfl) with ⟨response, hresponse⟩
  simp only at hresponse
  subst hresponse
  exact ⟨_, rfl, trivial⟩

theorem createContext_succeeds
    : createContext.Succeeds (Hosts playable id) fun context =>
        context.act = {} ∧ context.obs.unitPool.Follows [] := by
  have hinfo : getGameInfo.Succeeds (Hosts playable id) Map.SameSize := by
    rw [getGameInfo_eq]
    apply Dialogue.Succeeds.asking
    intro reply hreply
    rcases hreply _ rfl with ⟨response, info, hresponse, hinfo, hsize⟩
    simp only at hresponse
    subst hresponse
    exact ⟨info, hinfo, hsize⟩
  unfold createContext
  apply hinfo.bind
  intro gameInfo hsize
  apply (getData_succeeds _ _).bind
  intro unitTypeData _
  apply (getData_succeeds _ _).bind
  intro abilityData _
  have hinside : Map.FootprintsInside gameInfo [] := by
    simp [Map.FootprintsInside]
  rcases SC2Context.new_exists (Observation.new gameInfo unitTypeData abilityData) hsize hinside
    with ⟨context, hnew⟩
  rw [hnew]
  apply Dialogue.Succeeds.pure
  simp only [SC2Context.new, Outcome.bind_eq_ok, Outcome.pure_eq_ok, Except.ok.injEq] at hnew
  rcases hnew with ⟨map, -, rfl⟩
  exact ⟨rfl, UnitPool.follows_empty⟩

theorem joinGameAs_succeeds (client : SC2Client σ) (state : σ)
    {update : σ → Observation → Agent.Program σ} (hid : id ≠ -1)
    (hcompletes : ∀ state obs, playable obs → (update state obs).Completes)
    : (client.joinGameAs state update).Succeeds (Hosts playable id) fun joined =>
        joined.1 = true ∧ ∃ agent, joined.2.agent = some agent ∧ agent.Playing playable id := by
  have hjoin : (joinGame .protoss).Succeeds (Hosts playable id) (· = id) := by
    rw [joinGame_eq]
    apply Dialogue.Succeeds.asking
    intro reply hreply
    rcases hreply _ rfl with ⟨joined, hjoined, herror, hplayer⟩
    rcases Option.bind_eq_some_iff.mp hjoined with ⟨response, hresponse, hpayload⟩
    simp only at hresponse
    subst hresponse
    simp only [joinGameOf, hpayload, herror, Option.isSome_none, Bool.false_eq_true, if_false]
    exact ⟨_, rfl, hplayer⟩
  unfold joinGameAs
  apply hjoin.bind
  intro id' hid'
  subst hid'
  split
  . next hbeq => exact absurd (beq_iff_eq.mp hbeq) hid
  . apply createContext_succeeds.bind
    intro context hcontext
    exact .pure ⟨rfl, _, rfl, rfl, hcontext.1, ⟨[], hcontext.2⟩, hcompletes⟩

end SC2Client

namespace Main

theorem tryMain_succeeds (state : σ) {update : σ → Observation → Agent.Program σ} (hid : id ≠ -1)
    (hcompletes : ∀ state obs, playable obs → (update state obs).Completes) (rounds : Nat)
    : (tryMain state update rounds).Succeeds (Hosts playable id) (Ending.PlayedBy id) := by
  have hping : ping.Succeeds (Hosts playable id) fun _ => True := by
    rw [ping_eq]
    apply Dialogue.Succeeds.asking
    intro reply hreply
    rcases Option.isSome_iff_exists.mp (hreply _ rfl) with ⟨response, hresponse⟩
    simp only at hresponse
    subst hresponse
    exact ⟨_, rfl, trivial⟩
  have hcreate : createGame.Succeeds (Hosts playable id) (· = true) := by
    rw [createGame_eq]
    apply Dialogue.Succeeds.asking
    intro reply hreply
    rcases hreply _ rfl with ⟨response, hresponse, herror⟩
    simp only at hresponse
    subst hresponse
    exact ⟨_, rfl, by rw [herror]; rfl⟩
  unfold tryMain
  apply hping.bind
  intro pong _
  apply hcreate.bind
  intro created hcreated
  subst hcreated
  apply (joinGameAs_succeeds _ state hid hcompletes).bind
  intro joined hjoined
  rcases joined with ⟨joined, client⟩
  rcases hjoined with ⟨hjoined, agent, hclient, hagent⟩
  simp only at hjoined
  subst hjoined
  apply (play_succeeds hclient hagent rounds).bind
  intro played hown
  rcases played with ⟨res, client'⟩
  cases res with
  | none => exact .pure trivial
  | some res => exact .pure (hown res rfl)

theorem main_succeeds (state : σ) {update : σ → Observation → Agent.Program σ} (hid : id ≠ -1)
    (hcompletes : ∀ state obs, playable obs → (update state obs).Completes) (rounds : Nat)
    : (main state update rounds).Succeeds (Hosts playable id) (Ending.PlayedBy id) := by
  unfold main
  apply (tryMain_succeeds state hid hcompletes rounds).attempt.bind
  intro result hresult
  rcases hresult with ⟨ending, rfl, hplayed⟩
  exact .pure hplayed

theorem main_completes (state : σ) {update : σ → Observation → Agent.Program σ} (hid : id ≠ -1)
    (hcompletes : ∀ state obs, playable obs → (update state obs).Completes)
    {serve : Exchanges → Proto.Request → Option Proto.Response}
    (hserve : ∀ before request, Hosts playable id (request, serve before request)) (rounds : Nat)
    : ∃ log ending, Dialogue.Runs (main state update rounds) log (.ok ending) ∧
        Dialogue.AnsweredBy serve log ∧ ending.PlayedBy id := by
  exact (main_succeeds state hid hcompletes rounds).exists_run hserve

theorem host_hosts (rounds : Nat) (before : Exchanges) (request : Proto.Request)
    : Hosts (fun _ => True) 1 (request, host rounds before request) := by
  intro payload hpayload
  have hobliging := obligingServer_answers 1 request
  rcases request with ⟨_ | _⟩
  . cases hpayload
  . cases hpayload
    cases payload with
    | createGame game => exact ⟨_, rfl, rfl⟩
    | joinGame game => exact ⟨_, rfl, rfl, rfl⟩
    | gameInfo => exact ⟨_, _, rfl, rfl, rfl, rfl⟩
    | observation =>
      refine ⟨_, rfl, ?_, ?_, fun _ _ _ => trivial⟩
      . simp [Proto.ResponseObservation.OrdersNamed, Proto.ResponseObservation.units]
      . simp only
        split
        . exact .inl rfl
        . exact .inr ⟨_, List.mem_singleton.mpr rfl, rfl⟩
    | step request => rfl
    | query query => exact hobliging
    | _ => rfl

theorem greeter_completes (state : Nat) (obs : Observation) : (greeter state obs).Completes := by
  apply Agent.Program.Harmless.completes
  simp [greeter, Agent.Program.Harmless]

theorem main_completes_host
    : ∃ log ending, Dialogue.Runs (main 0 greeter 3) log (.ok ending) ∧
        Dialogue.AnsweredBy (host 2) log ∧ ending.PlayedBy 1 := by
  exact main_completes 0 (by decide : (1 : UInt32) ≠ -1)
    (fun state obs _ => greeter_completes state obs) (host_hosts 2) 3

end Main

end Sc2
