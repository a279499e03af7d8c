import Sc2pp.Lemmas.Actions
import Sc2pp.Lemmas.Converters
import Sc2pp.Lemmas.Observation
import Sc2pp.Lemmas.Query

/-!
This module contains what one step of an agent does. `Plays` is what the program of an agent means
apart from batches and sessions: it relates the program to what it issues, in order, where `issued` is
what it has issued before. An intent is a call of `Actions` or a call of `Query` with the exchange it
had.
-/

namespace Sc2

abbrev Exchanges := List (Proto.Request × Option Proto.Response)

namespace Agent

inductive Intent where
  | act (call : Actions.Call)
  | query (call : Query.Call) (log : Exchanges)

def Intent.calls : List Intent → List Actions.Call
  | [] => []
  | .act call :: intents => call :: calls intents
  | .query _ _ :: intents => calls intents

def Intent.requests : List Intent → List Proto.Request
  | [] => []
  | .act _ :: intents => requests intents
  | .query call _ :: intents => call.requests ++ requests intents

variable {σ : Type}

inductive Plays : List Actions.Call → Program σ → List Intent → σ → Prop where
  | done (issued : List Actions.Call) (state : σ) : Plays issued (.done state) [] state
  | act {issued : List Actions.Call} {call : Actions.Call} {k : Program σ} {intents : List Intent}
    {state : σ}
    : Plays (issued ++ [call]) k intents state →
      Plays issued (.act call k) (.act call :: intents) state
  | has {issued : List Actions.Call} {k : Bool → Program σ} {intents : List Intent} {state : σ}
    : Plays issued (k (!issued.isEmpty)) intents state → Plays issued (.has k) intents state
  | answer {issued : List Actions.Call} {call : Query.Call} {log : Exchanges}
    {answer : Query.Answer} {k : Except String Query.Answer → Program σ} {intents : List Intent}
    {state : σ}
    : Dialogue.Runs call.run log (.ok answer) → Plays issued (k (.ok answer)) intents state →
      Plays issued (.query call k) (.query call log :: intents) state
  | threw {issued : List Actions.Call} {call : Query.Call} {log : Exchanges} {what : String}
    {k : Except String Query.Answer → Program σ} {intents : List Intent} {state : σ}
    : Dialogue.Runs call.run log (.error (.exception what)) →
      Plays issued (k (.error what)) intents state →
      Plays issued (.query call k) (.query call log :: intents) state

def Program.Harmless : Program σ → Prop
  | done _ => True
  | fail _ => False
  | act _ k => k.Harmless
  | has k => ∀ b, (k b).Harmless
  | query _ k => ∀ answer, (k answer).Harmless

structure Holds (actions : Actions) (issued : List Actions.Call) : Prop where
  filled : actions.Filled
  pending : actions.pending = issued.map Actions.Call.message

theorem Holds.empty : Holds {} [] where
  filled := Actions.filled_empty
  pending := Actions.pending_empty

theorem Holds.call {actions : Actions} {issued : List Actions.Call} (h : Holds actions issued)
    (call : Actions.Call) : Holds (actions.call call) (issued ++ [call]) where
  filled := Actions.refines.inv_push actions call h.filled
  pending := by
    rw [Actions.refines.pending_push actions call h.filled, h.pending, List.map_append,
      List.map_singleton]

theorem Holds.has {actions : Actions} {issued : List Actions.Call} (h : Holds actions issued)
    : actions.has = !issued.isEmpty := by
  rw [Bool.eq_iff_iff, Actions.has_iff h.filled, h.pending]
  simp

theorem Program.run_query {call : Query.Call} {k : Except String Query.Answer → Program σ}
    {actions : Actions} {log : Exchanges} {result : Outcome (σ × Actions)}
    (h : Dialogue.Runs ((Program.query call k).run actions) log result)
    : (∃ answer log₁ log₂, Dialogue.Runs call.run log₁ (.ok answer) ∧
        Dialogue.Runs ((k (.ok answer)).run actions) log₂ result ∧ log = log₁ ++ log₂) ∨
      (∃ what log₁ log₂, Dialogue.Runs call.run log₁ (.error (.exception what)) ∧
        Dialogue.Runs ((k (.error what)).run actions) log₂ result ∧ log = log₁ ++ log₂) ∨
      ∃ fault, Dialogue.Runs call.run log (.error fault) ∧ result = .error fault := by
  unfold run at h
  rcases Dialogue.runs_bind_iff.mp h with ⟨inner, log₁, log₂, hattempt, hk, rfl⟩ | ⟨e, hattempt, -⟩
  . rcases Dialogue.runs_attempt_iff.mp hattempt with ⟨inner', heq, hcall⟩
    cases heq
    match inner with
    | .ok answer => exact .inl ⟨answer, log₁, log₂, hcall, hk, rfl⟩
    | .error (.exception what) => exact .inr (.inl ⟨what, log₁, log₂, hcall, hk, rfl⟩)
    | .error .assertFailed | .error .nullDeref | .error .outOfRange | .error .intOverflow =>
      rcases Dialogue.runs_fail_iff.mp hk with ⟨rfl, rfl⟩
      exact .inr (.inr ⟨_, by simpa using hcall, rfl⟩)
  . rcases Dialogue.runs_attempt_iff.mp hattempt with ⟨inner', heq, -⟩
    cases heq

theorem Program.run_plays {program : Program σ} {actions actions' : Actions}
    {issued : List Actions.Call} (hactions : Holds actions issued) {log : Exchanges} {state : σ}
    (h : Dialogue.Runs (program.run actions) log (.ok (state, actions')))
    : ∃ intents, Plays issued program intents state ∧
        log.map Prod.fst = Intent.requests intents ∧
        Holds actions' (issued ++ Intent.calls intents) := by
  induction program generalizing actions issued log with
  | done s =>
    simp only [run, Dialogue.runs_pure_iff, Except.ok.injEq, Prod.mk.injEq] at h
    rcases h with ⟨rfl, rfl, rfl⟩
    exact ⟨[], .done issued _, rfl, by simpa [Intent.calls] using hactions⟩
  | fail fault => simp [run] at h
  | act call k ih =>
    rcases ih (hactions.call call) h with ⟨intents, hplays, hrequests, hholds⟩
    refine ⟨.act call :: intents, .act hplays, hrequests, ?_⟩
    rwa [List.append_assoc] at hholds
  | has k ih =>
    simp only [run, hactions.has] at h
    rcases ih _ hactions h with ⟨intents, hplays, hrequests, hholds⟩
    exact ⟨intents, .has hplays, hrequests, hholds⟩
  | query call k ih =>
    rcases run_query h with ⟨answer, log₁, log₂, hcall, hk, rfl⟩ |
      ⟨what, log₁, log₂, hcall, hk, rfl⟩ | ⟨fault, -, hfault⟩
    . rcases ih _ hactions hk with ⟨intents, hplays, hrequests, hholds⟩
      refine ⟨.query call log₁ :: intents, .answer hcall hplays, ?_, hholds⟩
      rw [List.map_append, Query.Call.runs_requests hcall, hrequests, Intent.requests]
    . rcases ih _ hactions hk with ⟨intents, hplays, hrequests, hholds⟩
      refine ⟨.query call log₁ :: intents, .threw hcall hplays, ?_, hholds⟩
      rw [List.map_append, Query.Call.runs_requests hcall, hrequests, Intent.requests]
    . cases hfault

structure Carries (request : Proto.Request) (calls : List Actions.Call) : Prop where
  orders : request.action.actions.map Proto.Action.order? = calls.map fun call => some call.order
  idle : calls = [] → request = {}

theorem Holds.reset {actions : Actions} {issued : List Actions.Call} (h : Holds actions issued)
    : Carries actions.reset.1 issued ∧ actions.reset.2 = {} := by
  refine ⟨⟨?_, ?_⟩, (Actions.reset_spec actions).2⟩
  . rw [(Actions.reset_spec actions).1, h.pending, List.map_map]
    congr 1
    funext call
    apply Actions.order?_message call
  . intro hissued
    have hhas := h.has
    subst hissued
    cases hrequest : actions.request with
    | none => simp [Actions.reset, hrequest]
    | some request => simp [Actions.has, hrequest] at hhas

structure Steps (agent : Agent σ) (response : Proto.ResponseObservation) (obs : Observation)
    (intents : List Intent) (request : Proto.Request) (agent' : Agent σ) : Prop where
  observed : agent.sc2.obs.update response = .ok obs
  plays : Plays [] (agent.update agent.state obs) intents agent'.state
  carries : Carries request (Intent.calls intents)
  sc2 : agent'.sc2 = { agent.sc2 with obs := obs, act := {} }
  same : agent'.id = agent.id ∧ agent'.update = agent.update

theorem step_spec {agent agent' : Agent σ} (hact : agent.sc2.act = {})
    {response : Proto.ResponseObservation} {log : Exchanges} {request : Proto.Request}
    (h : Dialogue.Runs (agent.step response) log (.ok (request, agent')))
    : ∃ obs intents, agent.Steps response obs intents request agent' ∧
        log.map Prod.fst = Intent.requests intents := by
  unfold step SC2Context.update at h
  cases hobs : agent.sc2.obs.update response with
  | error fault => simp [hobs] at h
  | ok obs =>
    simp only [hobs, Outcome.bind_ok, Outcome.pure_eq_ok, Dialogue.runs_lift_bind_ok, hact] at h
    rcases Dialogue.runs_bind_iff.mp h with ⟨⟨state, act⟩, log₁, log₂, hrun, hpure, rfl⟩ | ⟨e, -, he⟩
    . rcases Program.run_plays Holds.empty hrun with ⟨intents, hplays, hrequests, hholds⟩
      rw [List.nil_append] at hholds
      rcases hholds.reset with ⟨hcarries, hreset⟩
      simp only [Dialogue.runs_pure_iff, Except.ok.injEq, Prod.mk.injEq] at hpure
      rcases hpure with ⟨rfl, rfl, rfl⟩
      rw [List.append_nil]
      exact ⟨obs, intents, ⟨hobs, hplays, hcarries, by simp [hreset], rfl, rfl⟩, hrequests⟩
    . cases he

theorem Program.run_answered {program : Program σ} (hharmless : program.Harmless)
    {actions : Actions} {log : Exchanges} {result : Outcome (σ × Actions)}
    (h : Dialogue.Runs (program.run actions) log result)
    (hlog : ∀ e ∈ log, ∀ request, e.1.payload = some (.query request) → Query.Answers request e.2)
    : ∃ end_, result = .ok end_ := by
  induction program generalizing actions log with
  | done s =>
    simp only [run, Dialogue.runs_pure_iff] at h
    exact ⟨_, h.2⟩
  | fail fault => exact hharmless.elim
  | act call k ih => exact ih hharmless h hlog
  | has k ih => exact ih _ (hharmless _) h hlog
  | query call k ih =>
    rcases run_query h with ⟨answer, log₁, log₂, -, hk, rfl⟩ | ⟨what, log₁, log₂, -, hk, rfl⟩ |
      ⟨fault, hcall, -⟩
    . apply ih _ (hharmless _) hk (fun e he => hlog e (List.mem_append_right log₁ he))
    . apply ih _ (hharmless _) hk (fun e he => hlog e (List.mem_append_right log₁ he))
    . rcases Query.Call.runs_answered hcall hlog with ⟨answer, hanswer⟩
      cases hanswer

theorem step_answered {agent : Agent σ} (hharmless : ∀ state obs, (agent.update state obs).Harmless)
    {prev : Units} (hpool : agent.sc2.obs.unitPool.Follows prev)
    {response : Proto.ResponseObservation} (hnamed : response.OrdersNamed) {log : Exchanges}
    {result : Outcome (Proto.Request × Agent σ)}
    (h : Dialogue.Runs (agent.step response) log result)
    (hlog : ∀ e ∈ log, ∀ request, e.1.payload = some (.query request) → Query.Answers request e.2)
    : ∃ stepped, result = .ok stepped := by
  rcases convertObservation_exists hnamed with ⟨units, hunits⟩
  have hupdate := Observation.update_of_pool ⟨_, _, hunits⟩ (UnitPool.update_eq hpool units)
  unfold step SC2Context.update at h
  simp only [hupdate, Outcome.bind_ok, Outcome.pure_eq_ok, Dialogue.runs_lift_bind_ok] at h
  rcases Dialogue.runs_bind_iff.mp h with ⟨⟨state, act⟩, log₁, log₂, -, hpure, -⟩ | ⟨e, hrun, -⟩
  . simp only [Dialogue.runs_pure_iff] at hpure
    exact ⟨_, hpure.2⟩
  . rcases Program.run_answered (hharmless _ _) hrun hlog with ⟨_, hend⟩
    cases hend

end Agent

end Sc2
