import Sc2pp.Impl.Main
import Sc2pp.Lemmas.SC2Client
import Sc2pp.Util.Protocol

/-!
This module contains the order in which the program of the tests sends its requests. `phases` is the
protocol of a game as its client should keep it: the game is set up in three requests, each of the
three loads is sent once, in any order, and each round is a step, an observation, any queries and the
actions.
-/

namespace Sc2

open SC2Client

variable {σ : Type}

inductive Load where
  | gameInfo
  | unitTypeData
  | abilityData
  deriving DecidableEq, Repr

def Load.all : List Load := [.gameInfo, .unitTypeData, .abilityData]

def Load.request : Load → Proto.Request
  | gameInfo => gameInfoRequest
  | unitTypeData => dataRequest { unitTypeId := some true }
  | abilityData => dataRequest { abilityId := some true }

theorem Load.request_injective : Function.Injective Load.request := by
  intro load load'
  cases load <;> cases load' <;> decide

inductive Phase where
  | launched
  | connected
  | created
  | loading (left : List Load)
  | ready
  | stepped
  | acting
  deriving DecidableEq, Repr

namespace Phase

def loaded : List Load → Phase
  | [] => ready
  | left => loading left

def next : Phase → Proto.Request → Option Phase
  | launched, ⟨some .ping⟩ => some connected
  | connected, ⟨some (.createGame _)⟩ => some created
  | created, ⟨some (.joinGame _)⟩ => some (loading Load.all)
  | loading left, request =>
    (left.find? (·.request == request)).map fun load => loaded (left.erase load)
  | ready, ⟨some (.step _)⟩ => some stepped
  | stepped, ⟨some .observation⟩ => some acting
  | acting, ⟨some (.query _)⟩ => some acting
  | acting, ⟨some (.action _)⟩ => some ready
  | acting, ⟨none⟩ => some ready
  | _, _ => none

end Phase

def phases : Protocol Proto.Request Phase where
  next := Phase.next

theorem find?_load {load : Load} {left : List Load} (h : load ∈ left)
    : left.find? (·.request == load.request) = some load := by
  induction left with
  | nil => cases h
  | cons load' left ih =>
    rw [List.find?_cons]
    cases hrequest : load'.request == load.request with
    | true => rw [Load.request_injective (beq_iff_eq.mp hrequest)]
    | false =>
      apply ih
      rcases List.mem_cons.mp h with rfl | h
      . simp at hrequest
      . exact h

theorem next_load {load : Load} {left : List Load} (h : load ∈ left)
    : phases.next (.loading left) load.request = some (.loaded (left.erase load)) := by
  unfold phases
  simp only [Phase.next, find?_load h, Option.map_some]

theorem next_loading {left : List Load} {request : Proto.Request} {phase : Phase}
    (h : phases.next (.loading left) request = some phase)
    : ∃ load : Load, load.request = request := by
  unfold phases at h
  simp only [Phase.next] at h
  rcases Option.map_eq_some_iff.mp h with ⟨load, hfind, -⟩
  have hrequest := List.find?_some hfind
  exact ⟨load, beq_iff_eq.mp hrequest⟩

def Ending.At : Ending → Phase → Prop
  | notCreated, phase => phase = .created
  | joinFailed, phase => phase = .loading Load.all
  | finished _, phase => phase = .ready
  | playing, phase => phase = .ready
  | caught _, _ => True

def Ending.Played : Ending → Prop
  | finished _ => True
  | playing => True
  | _ => False

def IsQuery (request : Proto.Request) : Prop :=
  ∃ query, request.payload = some (.query query)

def IsBatch (request : Proto.Request) : Prop :=
  request.payload = none ∨ ∃ actions, request.payload = some (.action actions)

theorem IsQuery.next {request : Proto.Request} (h : IsQuery request)
    : phases.next .acting request = some .acting := by
  rcases request with ⟨payload⟩
  rcases h with ⟨query, hquery⟩
  simp only at hquery
  subst hquery
  rfl

theorem IsBatch.next {request : Proto.Request} (h : IsBatch request)
    : phases.next .acting request = some .ready := by
  rcases request with ⟨payload⟩
  rcases h with hnone | ⟨actions, hactions⟩
  . simp only at hnone
    subst hnone
    rfl
  . simp only at hactions
    subst hactions
    rfl

theorem Query.Call.run_asks (call : Query.Call) : call.run.Asks IsQuery := by
  rcases call.run_cases with ⟨-, answer, hrun⟩ | ⟨request, f, -, hrun, -⟩
  . rw [hrun]
    exact .silent
  . rw [hrun]
    exact .asking ⟨request, rfl⟩

namespace Agent

theorem Program.run_asks (program : Program σ) (actions : Actions)
    : (program.run actions).Asks IsQuery := by
  induction program generalizing actions with
  | done state => exact .silent
  | fail fault => exact .silent
  | act call k ih => exact ih _
  | has k ih => exact ih _ _
  | query call k ih =>
    unfold run
    apply call.run_asks.attempt.bind
    intro answer
    cases answer with
    | ok answer => exact ih (.ok answer) actions
    | error fault =>
      cases fault with
      | exception what => exact ih (.error what) actions
      | _ => exact .silent

theorem Carries.isBatch {request : Proto.Request} {calls : List Actions.Call}
    (h : Carries request calls) : IsBatch request := by
  rcases request with ⟨_ | payload⟩
  . exact .inl rfl
  . cases payload with
    | action actions => exact .inr ⟨actions, rfl⟩
    | _ =>
      have hnil : calls = [] := by
        have horders := h.orders
        simp only [Proto.Request.action, List.map_nil] at horders
        simpa using horders.symm
      have hidle := h.idle hnil
      cases hidle

theorem step_asks (agent : Agent σ) (response : Proto.ResponseObservation)
    : (agent.step response).Asks IsQuery := by
  unfold step
  apply Dialogue.Asks.lift_bind
  intro sc2 hsc2
  apply (Program.run_asks _ _).bind
  intro played
  exact .silent

theorem step_obeys {agent : Agent σ} (hact : agent.sc2.act = {})
    (response : Proto.ResponseObservation)
    : (agent.step response).Obeys phases .acting fun acted phase =>
        phase = .acting ∧ IsBatch acted.1 ∧ acted.2.sc2.act = {} := by
  apply (agent.step_asks response).obeys (fun _ hq => hq.next)
  intro log acted h
  rcases step_spec hact h with ⟨obs, intents, hsteps, -⟩
  refine ⟨rfl, hsteps.carries.isBatch, ?_⟩
  rw [hsteps.sc2]

end Agent

namespace SC2Client

theorem step_obeys : step.Obeys phases .ready fun _ phase => phase = .acting := by
  rw [step_eq]
  apply Dialogue.Obeys.send_bind rfl
  intro reply
  cases reply.bind Proto.Response.step? with
  | none => exact .fail
  | some responseStep => exact .asking rfl (fun _ _ _ => rfl)

theorem update_obeys {client : SC2Client σ} {agent : Agent σ} (hagent : client.agent = some agent)
    (hact : agent.sc2.act = {})
    : client.update.Obeys phases .ready fun updated phase =>
        phase = .ready ∧ ∃ agent', updated.2.agent = some agent' ∧ agent'.sc2.act = {} := by
  rw [update_eq hagent]
  apply step_obeys.bind
  intro stepped phase hphase
  subst hphase
  apply (Agent.step_obeys hact stepped.2).bind
  intro acted phase hacted
  rcases hacted with ⟨rfl, hbatch, hact'⟩
  apply Dialogue.Obeys.asking hbatch.next
  intro reply updated hfinish
  exact ⟨rfl, acted.2, finish_agent hfinish, hact'⟩

theorem play_obeys {client : SC2Client σ} {agent : Agent σ} (hagent : client.agent = some agent)
    (hact : agent.sc2.act = {}) (rounds : Nat)
    : (client.play rounds).Obeys phases .ready fun _ phase => phase = .ready := by
  induction rounds generalizing client agent with
  | zero => exact .pure rfl
  | succ rounds ih =>
    unfold play
    apply (update_obeys hagent hact).bind
    intro updated phase hupdated
    rcases hupdated with ⟨rfl, agent', hagent', hact'⟩
    simp only
    split
    . exact .pure rfl
    . exact ih hagent' hact'

theorem getGameInfo_obeys {left : List Load} (h : .gameInfo ∈ left)
    : getGameInfo.Obeys phases (.loading left) fun _ phase =>
        phase = .loaded (left.erase .gameInfo) := by
  rw [getGameInfo_eq]
  exact .asking (next_load h) (fun _ _ _ => rfl)

theorem getData_obeys {T : Type} {load : Load} {what : Proto.RequestData}
    (hwhat : load.request = dataRequest what) (select : Proto.ResponseData → List T)
    {left : List Load} (h : load ∈ left)
    : (getData what select).Obeys phases (.loading left) fun _ phase =>
        phase = .loaded (left.erase load) := by
  rw [getData_eq, ← hwhat]
  exact .asking (next_load h) (fun _ _ _ => rfl)

theorem new_act {obs : Observation} {context : SC2Context} (h : SC2Context.new obs = .ok context)
    : context.act = {} := by
  simp only [SC2Context.new, Outcome.bind_eq_ok, Outcome.pure_eq_ok, Except.ok.injEq] at h
  rcases h with ⟨map, -, rfl⟩
  rfl

theorem createContext_obeys
    : createContext.Obeys phases (.loading Load.all) fun context phase =>
        phase = .ready ∧ context.act = {} := by
  unfold createContext
  apply (getGameInfo_obeys (by decide)).bind
  intro gameInfo phase hphase
  subst hphase
  apply (@getData_obeys _ .unitTypeData _ rfl _ [.unitTypeData, .abilityData] (by decide)).bind
  intro unitTypeData phase hphase
  subst hphase
  apply (@getData_obeys _ .abilityData _ rfl _ [.abilityData] (by decide)).bind
  intro abilityData phase hphase
  subst hphase
  cases hnew : SC2Context.new (Observation.new gameInfo unitTypeData abilityData) with
  | error fault => exact .fail
  | ok context => exact .pure ⟨rfl, new_act hnew⟩

theorem joinGameAs_obeys (client : SC2Client σ) (state : σ)
    (update : σ → Observation → Agent.Program σ)
    : (client.joinGameAs state update).Obeys phases .created fun joined phase =>
        if joined.1 then
          phase = .ready ∧ ∃ agent, joined.2.agent = some agent ∧ agent.sc2.act = {}
        else
          phase = .loading Load.all := by
  have hjoin : (joinGame .protoss).Obeys phases .created fun _ phase => phase = .loading Load.all := by
    rw [joinGame_eq]
    exact .asking rfl (fun _ _ _ => rfl)
  unfold joinGameAs
  apply hjoin.bind
  intro id phase hphase
  subst hphase
  split
  . exact .pure rfl
  . apply createContext_obeys.bind
    intro context phase hcontext
    exact .pure ⟨hcontext.1, _, rfl, hcontext.2⟩

end SC2Client

namespace Main

open SC2Client

theorem ping_obeys : ping.Obeys phases .launched fun _ phase => phase = .connected := by
  rw [ping_eq]
  exact .asking rfl (fun _ _ _ => rfl)

theorem createGame_obeys
    : createGame.Obeys phases .connected fun _ phase => phase = .created := by
  rw [createGame_eq]
  exact .asking rfl (fun _ _ _ => rfl)

theorem tryMain_obeys (state : σ) (update : σ → Observation → Agent.Program σ) (rounds : Nat)
    : (tryMain state update rounds).Obeys phases .launched Ending.At := by
  unfold tryMain
  apply ping_obeys.bind
  intro pong phase hphase
  subst hphase
  apply createGame_obeys.bind
  intro created phase hphase
  subst hphase
  split
  . exact .pure rfl
  . apply (joinGameAs_obeys _ state update).bind
    intro joined phase hjoined
    rcases joined with ⟨joined, client⟩
    cases joined with
    | false => exact .pure hjoined
    | true =>
      rcases hjoined with ⟨rfl, agent, hagent, hact⟩
      apply (play_obeys hagent hact rounds).bind
      intro played phase hphase
      rcases played with ⟨res, client'⟩
      cases res with
      | none => exact .pure hphase
      | some res => exact .pure hphase

theorem main_obeys (state : σ) (update : σ → Observation → Agent.Program σ) (rounds : Nat)
    : (main state update rounds).Obeys phases .launched Ending.At := by
  unfold main
  apply (tryMain_obeys state update rounds).attempt.bind
  intro result phase hresult
  cases result with
  | ok ending => exact .pure (hresult ending rfl)
  | error fault =>
    cases fault with
    | exception what => exact .pure trivial
    | _ => exact .fail

theorem main_keeps_phases (state : σ) (update : σ → Observation → Agent.Program σ) (rounds : Nat)
    {log : Exchanges} {result : Outcome Ending}
    (h : Dialogue.Runs (main state update rounds) log result)
    : (∀ before, before <+: log.map Prod.fst → phases.Allows .launched before) ∧
      ∀ ending, result = .ok ending →
        ∃ phase, phases.follow .launched (log.map Prod.fst) = some phase ∧ ending.At phase := by
  rcases (main_obeys state update rounds).runs log result h with ⟨phase, hfollow, hpost⟩
  constructor
  . intro before hbefore
    apply Protocol.Allows.of_prefix ⟨phase, hfollow⟩ hbefore
  . intro ending hending
    exact ⟨phase, hfollow, hpost ending hending⟩

-- A game that is over with the observation of the given number.
def host (rounds : Nat) (before : Exchanges) (request : Proto.Request) : Option Proto.Response :=
  match request.payload with
  | some (.joinGame _) => some { payload := some (.joinGame { playerId := some 1 }) }
  | some .observation =>
    some {
      payload := some (.observation {
        playerResult :=
          if before.countP (·.1 == observationRequest) + 1 < rounds then []
          else [{ playerId := some 1 }]
      })
    }
  | _ => obligingServer request

theorem main_keeps_phases_host
    : ∃ log result, Dialogue.Runs (main 0 greeter 3) log result ∧
        Dialogue.AnsweredBy (host 2) log ∧
        ∀ before, before <+: log.map Prod.fst → phases.Allows .launched before := by
  rcases Dialogue.runs_exists (host 2) (main 0 greeter 3) with ⟨log, result, hruns, hlog⟩
  exact ⟨log, result, hruns, hlog, (main_keeps_phases 0 greeter 3 hruns).1⟩

end Main

end Sc2
