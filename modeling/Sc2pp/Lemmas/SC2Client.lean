import Sc2pp.Lemmas.Agent
import Sc2pp.Lemmas.Replies
import Sc2pp.Lemmas.SC2Context

/-!
This module contains what the client sends while it plays. A `Turn` is what one update amounts to:
the observation it was answered, what the agent saw of it and intended, and the request with the
agent's actions. `Turns` are the turns of consecutive updates.
-/

namespace Sc2.SC2Client

variable {σ : Type}

structure Turn where
  response : Proto.ResponseObservation
  obs : Observation
  intents : List Agent.Intent
  actions : Proto.Request

structure Turn.Of (turn : Turn) (agent : Agent σ) (log : Exchanges) (agent' : Agent σ)
    : Prop where
  requests : log.map Prod.fst
    = [stepRequest, observationRequest] ++ Agent.Intent.requests turn.intents ++ [turn.actions]
  answered : ∃ reply, log[1]? = some (observationRequest, some reply) ∧
    reply.observation? = some turn.response
  sees : Observes turn.response turn.obs.units
  steps : agent.Steps turn.response turn.obs turn.intents turn.actions agent'

inductive Turns : Agent σ → List Turn → Exchanges → Agent σ → Prop where
  | nil (agent : Agent σ) : Turns agent [] [] agent
  | cons {agent agent₁ agent₂ : Agent σ} {turn : Turn} {turns : List Turn} {log₁ log₂ : Exchanges}
    : turn.Of agent log₁ agent₁ → Turns agent₁ turns log₂ agent₂ →
      Turns agent (turn :: turns) (log₁ ++ log₂) agent₂

def updates (client : SC2Client σ) : Nat → Talk (SC2Client σ)
  | 0 => return client
  | n + 1 => do
    let (_, client) ← client.update
    client.updates n

def Answers (id : UInt32) (request : Proto.Request) (reply : Option Proto.Response) : Prop :=
  match request.payload with
  | some (.step _) => (reply.bind Proto.Response.step?).isSome
  | some .observation =>
    ∃ response, reply.bind Proto.Response.observation? = some response ∧ response.OrdersNamed ∧
      (response.playerResult = [] ∨
        ∃ res ∈ response.playerResult, res.playerId.getD 0 = id)
  | some (.query query) => Query.Answers query reply
  | _ => reply.isSome

theorem step_ok {log : Exchanges} {simulationLoop : UInt32} {response : Proto.ResponseObservation}
    (h : Dialogue.Runs step log (.ok (simulationLoop, response)))
    : ∃ reply₁ reply₂, log = [(stepRequest, reply₁), (observationRequest, some reply₂)] ∧
        reply₂.observation? = some response := by
  rw [step_eq, Dialogue.runs_send_bind_iff] at h
  rcases h with ⟨reply₁, rest, rfl, h⟩
  cases hstep : reply₁.bind Proto.Response.step? with
  | none =>
    simp only [hstep, Dialogue.runs_fail_iff] at h
    cases h.2
  | some responseStep =>
    simp only [hstep, Dialogue.runs_asking_iff] at h
    rcases h with ⟨reply₂, rfl, h⟩
    rcases observationOf_eq_ok h.symm with ⟨reply₂, rfl, hobs⟩
    exact ⟨reply₁, reply₂, rfl, hobs⟩

theorem step_answered {id : UInt32} {log : Exchanges}
    {result : Outcome (UInt32 × Proto.ResponseObservation)} (h : Dialogue.Runs step log result)
    (hlog : ∀ e ∈ log, Answers id e.1 e.2)
    : ∃ simulationLoop response, result = .ok (simulationLoop, response) ∧ response.OrdersNamed ∧
        (response.playerResult = [] ∨
          ∃ res ∈ response.playerResult, res.playerId.getD 0 = id) := by
  rw [step_eq, Dialogue.runs_send_bind_iff] at h
  rcases h with ⟨reply₁, rest, rfl, h⟩
  rcases Option.isSome_iff_exists.mp (hlog (stepRequest, reply₁) (by simp)) with ⟨responseStep, hstep⟩
  simp only [hstep, Dialogue.runs_asking_iff] at h
  rcases h with ⟨reply₂, rfl, rfl⟩
  rcases hlog (observationRequest, reply₂) (by simp) with ⟨response, hresponse, hnamed, hplayer⟩
  exact ⟨_, response, observationOf_answered hresponse, hnamed, hplayer⟩

def finish (client : SC2Client σ) (response : Proto.ResponseObservation) (agent : Agent σ)
    : Outcome (Option Proto.PlayerResult × SC2Client σ) :=
  if response.playerResult.isEmpty then
    .ok (none, { client with agent := some agent })
  else
    match response.playerResult.find? (fun res => res.playerId.getD 0 == agent.id) with
    | some res => .ok (some res, { client with agent := some agent })
    | none => .error .assertFailed

theorem update_eq {client : SC2Client σ} {agent : Agent σ} (hagent : client.agent = some agent)
    : client.update
        =
      step >>= fun stepped => agent.step stepped.2 >>= fun acted =>
        Dialogue.asking acted.1 fun _ => client.finish stepped.2 acted.2 := by
  unfold update
  congr 1
  funext stepped
  simp only [hagent, Outcome.deref]
  change agent.step stepped.2 >>= _ = agent.step stepped.2 >>= _
  congr 1
  funext acted
  apply Dialogue.send_bind_eq_asking
  intro reply
  unfold finish
  cases hresults : stepped.2.playerResult.isEmpty with
  | true => rfl
  | false =>
    cases hfind : stepped.2.playerResult.find? (fun res => res.playerId.getD 0 == acted.2.id) with
    | none => rfl
    | some res => rfl

theorem finish_agent {client client' : SC2Client σ} {response : Proto.ResponseObservation}
    {agent : Agent σ} {result : Option Proto.PlayerResult}
    (h : client.finish response agent = .ok (result, client')) : client'.agent = some agent := by
  unfold finish at h
  split at h
  . simp only [Except.ok.injEq, Prod.mk.injEq] at h
    rw [← h.2]
  . split at h
    . simp only [Except.ok.injEq, Prod.mk.injEq] at h
      rw [← h.2]
    . cases h

theorem finish_result {client client' : SC2Client σ} {response : Proto.ResponseObservation}
    {agent : Agent σ} {result : Option Proto.PlayerResult}
    (h : client.finish response agent = .ok (result, client'))
    : (result = none ∧ response.playerResult = []) ∨
      ∃ res, result = some res ∧
        response.playerResult.find? (fun res => res.playerId.getD 0 == agent.id) = some res := by
  unfold finish at h
  split at h
  . next hempty =>
    simp only [Except.ok.injEq, Prod.mk.injEq] at h
    exact .inl ⟨h.1.symm, List.isEmpty_iff.mp hempty⟩
  . split at h
    . next res hfind =>
      simp only [Except.ok.injEq, Prod.mk.injEq] at h
      exact .inr ⟨res, h.1.symm, hfind⟩
    . cases h

theorem finish_answered (client : SC2Client σ) {response : Proto.ResponseObservation}
    {agent : Agent σ}
    (h : response.playerResult = [] ∨
      ∃ res ∈ response.playerResult, res.playerId.getD 0 = agent.id)
    : ∃ finished, client.finish response agent = .ok finished := by
  unfold finish
  rcases h with hnone | ⟨res, hres, hid⟩
  . simp [hnone]
  . split
    . exact ⟨_, rfl⟩
    . cases hfind : response.playerResult.find? (fun res => res.playerId.getD 0 == agent.id) with
      | some res => exact ⟨_, rfl⟩
      | none => exact absurd hid (by simpa using List.find?_eq_none.mp hfind res hres)

theorem update_turn {client client' : SC2Client σ} {agent : Agent σ}
    (hagent : client.agent = some agent) (hact : agent.sc2.act = {}) {log : Exchanges}
    {result : Option Proto.PlayerResult}
    (h : Dialogue.Runs client.update log (.ok (result, client')))
    : ∃ turn : Turn, ∃ agent', turn.Of agent log agent' ∧ client'.agent = some agent' := by
  rw [update_eq hagent] at h
  rcases Dialogue.runs_bind_ok h with ⟨⟨simulationLoop, response⟩, log₁, _, hstep, hrest, rfl⟩
  rcases Dialogue.runs_bind_ok hrest with ⟨⟨actions, agent'⟩, log₂, log₃, hagentStep, hsend, rfl⟩
  rcases Dialogue.runs_asking_iff.mp hsend with ⟨reply, rfl, hfinish⟩
  rcases step_ok hstep with ⟨reply₁, reply₂, rfl, hobservation⟩
  rcases Agent.step_spec hact hagentStep with ⟨obs, intents, hsteps, hrequests⟩
  refine ⟨⟨response, obs, intents, actions⟩, agent', ⟨?_, ?_, ?_, hsteps⟩,
    finish_agent hfinish.symm⟩
  . simp [hrequests]
  . exact ⟨reply₂, rfl, hobservation⟩
  . exact (Observation.update_follows hsteps.observed).1

theorem Answers.query {id : UInt32} {request : Proto.Request} {reply : Option Proto.Response}
    (h : Answers id request reply) {query : Proto.RequestQuery}
    (hquery : request.payload = some (.query query)) : Query.Answers query reply := by
  unfold Answers at h
  rwa [hquery] at h

theorem update_answered {client : SC2Client σ} {agent : Agent σ}
    (hagent : client.agent = some agent) (hact : agent.sc2.act = {})
    (hharmless : ∀ state obs, (agent.update state obs).Harmless) {prev : Units}
    (hpool : agent.sc2.obs.unitPool.Follows prev) {log : Exchanges}
    {result : Outcome (Option Proto.PlayerResult × SC2Client σ)}
    (h : Dialogue.Runs client.update log result)
    (hlog : ∀ e ∈ log, Answers agent.id e.1 e.2)
    : ∃ updated, result = .ok updated := by
  rw [update_eq hagent] at h
  apply Dialogue.runs_bind_total h hlog
    (P := fun stepped => stepped.2.OrdersNamed ∧
      (stepped.2.playerResult = [] ∨
        ∃ res ∈ stepped.2.playerResult, res.playerId.getD 0 = agent.id))
  . intro log x hstep hlog
    rcases step_answered hstep hlog with ⟨simulationLoop, response, rfl, hgood⟩
    exact ⟨_, rfl, hgood⟩
  . intro stepped log hstepped h hlog
    apply Dialogue.runs_bind_total h hlog (P := fun acted => acted.2.id = agent.id)
    . intro log x hagentStep hlog
      rcases Agent.step_answered hharmless hpool hstepped.1 hagentStep
        (fun e he request => (hlog e he).query) with ⟨⟨actions, agent'⟩, rfl⟩
      rcases Agent.step_spec hact hagentStep with ⟨obs, intents, hsteps, -⟩
      exact ⟨_, rfl, hsteps.same.1⟩
    . intro acted log hacted h hlog
      rcases Dialogue.runs_asking_iff.mp h with ⟨reply, rfl, rfl⟩
      apply finish_answered client (hacted ▸ hstepped.2)

theorem updates_turns {client client' : SC2Client σ} {agent : Agent σ}
    (hagent : client.agent = some agent) (hact : agent.sc2.act = {}) {n : Nat} {log : Exchanges}
    (h : Dialogue.Runs (client.updates n) log (.ok client'))
    : ∃ turns agent', turns.length = n ∧ Turns agent turns log agent' ∧
        client'.agent = some agent' := by
  induction n generalizing client agent log with
  | zero =>
    simp only [updates, Dialogue.runs_pure_iff, Except.ok.injEq] at h
    rcases h with ⟨rfl, rfl⟩
    exact ⟨[], agent, rfl, .nil agent, hagent⟩
  | succ n ih =>
    unfold updates at h
    rcases Dialogue.runs_bind_ok h with ⟨⟨result, client₁⟩, log₁, log₂, hupdate, hrest, rfl⟩
    rcases update_turn hagent hact hupdate with ⟨turn, agent₁, hturn, hagent₁⟩
    have hact₁ : agent₁.sc2.act = {} := by
      rw [hturn.steps.sc2]
    rcases ih hagent₁ hact₁ hrest with ⟨turns, agent', hlength, hturns, hagent'⟩
    exact ⟨turn :: turns, agent', by simp [hlength], .cons hturn hturns, hagent'⟩

theorem updates_answered {client : SC2Client σ} (agent : Agent σ)
    (hagent : client.agent = some agent) (hact : agent.sc2.act = {})
    (hharmless : ∀ state obs, (agent.update state obs).Harmless) {prev : Units}
    (hpool : agent.sc2.obs.unitPool.Follows prev) {n : Nat} {log : Exchanges}
    {result : Outcome (SC2Client σ)} (h : Dialogue.Runs (client.updates n) log result)
    (hlog : ∀ e ∈ log, Answers agent.id e.1 e.2)
    : ∃ updated, result = .ok updated := by
  induction n generalizing client agent log prev with
  | zero =>
    simp only [updates, Dialogue.runs_pure_iff] at h
    exact ⟨client, h.2⟩
  | succ n ih =>
    unfold updates at h
    apply Dialogue.runs_bind_total h hlog
      (P := fun updated => ∃ agent₁ : Agent σ, updated.2.agent = some agent₁ ∧
        agent₁.sc2.act = {} ∧ agent₁.id = agent.id ∧ agent₁.update = agent.update ∧
        agent₁.sc2.obs.unitPool.Follows agent₁.sc2.obs.units)
    . intro log x hupdate hlog
      rcases update_answered hagent hact hharmless hpool hupdate hlog with ⟨⟨result, client₁⟩, rfl⟩
      rcases update_turn hagent hact hupdate with ⟨turn, agent₁, hturn, hagent₁⟩
      refine ⟨_, rfl, agent₁, hagent₁, ?_, hturn.steps.same.1, hturn.steps.same.2, ?_⟩
      . rw [hturn.steps.sc2]
      . rw [hturn.steps.sc2]
        exact (Observation.update_follows hturn.steps.observed).2
    . intro updated log hupdated hrest hlog
      rcases hupdated with ⟨agent₁, hagent₁, hact₁, hid, hupdate, hpool₁⟩
      apply ih agent₁ hagent₁ hact₁ (hupdate ▸ hharmless) hpool₁ hrest (hid ▸ hlog)

theorem updates_send_turns (prevLoop id : UInt32) (gameInfo : GameInfo)
    (unitTypeData : List Proto.UnitTypeData) (abilityData : List Proto.AbilityData)
    {context : SC2Context}
    (hnew : SC2Context.new (Observation.new gameInfo unitTypeData abilityData) = .ok context)
    (state : σ) (update : σ → Observation → Agent.Program σ) (n : Nat)
    : let agent : Agent σ := { id := id, sc2 := context, state := state, update := update }
      let client : SC2Client σ := { agent := some agent, prevLoop := prevLoop }
      (∀ log client', Dialogue.Runs (client.updates n) log (.ok client') →
        ∃ turns agent', turns.length = n ∧ Turns agent turns log agent' ∧
          client'.agent = some agent') ∧
      ∀ serve, (∀ before request, Answers id request (serve before request)) →
        (∀ state obs, (update state obs).Harmless) →
        ∃ log client', Dialogue.Runs (client.updates n) log (.ok client') ∧
          Dialogue.AnsweredBy serve log := by
  have hcontext : context.act = {} ∧ context.obs.unitPool.Follows [] := by
    simp only [SC2Context.new, Outcome.bind_eq_ok, Outcome.pure_eq_ok, Except.ok.injEq] at hnew
    rcases hnew with ⟨map, -, rfl⟩
    exact ⟨rfl, UnitPool.follows_empty⟩
  intro agent client
  constructor
  . intro log client' h
    apply updates_turns rfl hcontext.1 h
  . intro serve hserve hharmless
    rcases Dialogue.runs_exists serve (client.updates n) with ⟨log, result, hruns, hlog⟩
    have hanswers : ∀ e ∈ log, Answers id e.1 e.2 := by
      intro e he
      rcases List.append_of_mem he with ⟨before, after, hsplit⟩
      rw [hlog before e.1 e.2 after hsplit]
      apply hserve before e.1
    rcases updates_answered agent rfl hcontext.1 hharmless hcontext.2 hruns hanswers
      with ⟨client', rfl⟩
    exact ⟨log, client', hruns, hlog⟩

def obligingServer (request : Proto.Request) : Option Proto.Response :=
  match request.payload with
  | some (.step _) => some { payload := some (.step {}) }
  | some .observation => some { payload := some (.observation {}) }
  | some (.query query) =>
    some {
      payload := some (.query {
        abilities := query.abilities.map fun asked => { unitTag := asked.unitTag }
        placements := query.placements.map fun _ => { result := some .success }
      })
    }
  | _ => some {}

theorem obligingServer_answers (id : UInt32) (request : Proto.Request)
    : Answers id request (obligingServer request) := by
  rcases request with ⟨_ | payload⟩
  . rfl
  . cases payload with
    | observation => exact ⟨{}, rfl, by simp [Proto.ResponseObservation.OrdersNamed,
        Proto.ResponseObservation.units], .inl rfl⟩
    | query query => exact ⟨_, _, rfl, rfl, by simp, by simp⟩
    | _ => rfl

def greeter (step : Nat) (_ : Observation) : Agent.Program Nat :=
  .act (.chat "gl hf" .broadcast) (.query (.placement ⟨23⟩ {} false) fun _ => .done (step + 1))

theorem updates_send_turns_greeter
    : ∃ context, SC2Context.new (Observation.new Map.smallInfo [] []) = .ok context ∧
        let agent : Agent Nat := { id := 1, sc2 := context, state := 0, update := greeter }
        let client : SC2Client Nat := { agent := some agent, prevLoop := 0 }
        ∃ log client' turns agent', Dialogue.Runs (client.updates 2) log (.ok client') ∧
          turns.length = 2 ∧ Turns agent turns log agent' := by
  rcases SC2Context.new_exists (Observation.new Map.smallInfo [] []) ⟨rfl, rfl⟩ (by decide)
    with ⟨context, hnew⟩
  rcases updates_send_turns 0 1 Map.smallInfo [] [] hnew 0 greeter 2 with ⟨hturns, htotal⟩
  rcases htotal (fun _ => obligingServer) (fun _ => obligingServer_answers 1)
    (by simp [greeter, Agent.Program.Harmless]) with ⟨log, client', hruns, -⟩
  rcases hturns log client' hruns with ⟨turns, agent', hlength, hlog, -⟩
  exact ⟨context, hnew, log, client', turns, agent', hruns, hlength, hlog⟩

end Sc2.SC2Client
