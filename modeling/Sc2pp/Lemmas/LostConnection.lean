import Sc2pp.Lemmas.Main

/-!
This module contains what the program of the tests does once it gets no more responses. An `Essential`
request is one of the client, not of the agent. The client gives up on the first of them that is not
answered, the agent may go on for the rest of its update.
-/

namespace Sc2

variable {σ : Type}

def Essential (request : Proto.Request) : Prop :=
  ¬ IsQuery request ∧ ¬ IsBatch request

def Unanswered (e : Proto.Request × Option Proto.Response) : Prop :=
  Essential e.1 ∧ e.2 = none

def Failed {α : Type} (result : Outcome α) : Prop :=
  ∃ fault, result = .error fault

def GivesUp (result : Outcome Ending) : Prop :=
  ∀ ending, result = .ok ending → ¬ ending.Played

theorem not_failed_ok {α : Type} {a : α} : ¬ Failed (.ok a : Outcome α) := by
  intro h
  rcases h with ⟨fault, hfault⟩
  cases hfault

theorem Failed.error {α : Type} (fault : Fault) : Failed (.error fault : Outcome α) := by
  exact ⟨fault, rfl⟩

theorem GivesUp.error (fault : Fault) : GivesUp (.error fault) := by
  intro ending hending
  cases hending

theorem GivesUp.ok {ending : Ending} (h : ¬ ending.Played) : GivesUp (.ok ending) := by
  intro ending' hending
  cases hending
  exact h

section

variable {α β : Type} {d : Talk α} {f : α → Talk β}

theorem halts_bind (hd : d.Halts Unanswered Failed)
    (hf : ∀ a log, Dialogue.Runs d log (.ok a) → (f a).Halts Unanswered Failed)
    : (d >>= f).Halts Unanswered Failed := by
  apply hd.bind
  . intro fault _
    exact .error fault
  . intro a ha
    exact absurd ha not_failed_ok
  . exact hf

theorem givesUp_bind {f : α → Talk Ending} (hd : d.Halts Unanswered Failed)
    (hf : ∀ a log, Dialogue.Runs d log (.ok a) → (f a).Halts Unanswered GivesUp)
    : (d >>= f).Halts Unanswered GivesUp := by
  apply hd.bind
  . intro fault _
    exact .error fault
  . intro a ha
    exact absurd ha not_failed_ok
  . exact hf

theorem halts_asking {request : Proto.Request} {f : Option Proto.Response → Outcome α}
    (h : Failed (f none)) : (Dialogue.asking request f).Halts Unanswered Failed := by
  apply Dialogue.Halts.asking
  intro reply hreply
  rcases hreply with ⟨-, hnone⟩
  simp only at hnone
  subst hnone
  exact h

theorem halts_of_queries (hd : d.Asks IsQuery) : d.Halts Unanswered Failed := by
  apply Dialogue.Halts.of_asks hd
  intro e he
  exact he.1.1

end

namespace SC2Client

theorem step_halts : step.Halts Unanswered Failed := by
  rw [step_eq]
  apply Dialogue.Halts.send_bind
  . intro reply hreply
    rcases hreply with ⟨-, hnone⟩
    simp only at hnone
    subst hnone
    exact ⟨_, rfl, .error _⟩
  . intro reply hreply
    cases reply.bind Proto.Response.step? with
    | none => exact .silent
    | some responseStep => exact halts_asking (.error _)

theorem update_halts {client : SC2Client σ} {agent : Agent σ} (hagent : client.agent = some agent)
    (hact : agent.sc2.act = {}) : client.update.Halts Unanswered Failed := by
  rw [update_eq hagent]
  apply halts_bind step_halts
  intro stepped _ _
  apply halts_bind (halts_of_queries (agent.step_asks stepped.2))
  intro acted log hacted
  rcases Agent.step_spec hact hacted with ⟨obs, intents, hsteps, -⟩
  apply Dialogue.Halts.asking
  intro reply hreply
  exact absurd hsteps.carries.isBatch hreply.1.2

theorem play_halts {client : SC2Client σ} {agent : Agent σ} (hagent : client.agent = some agent)
    (hact : agent.sc2.act = {}) (rounds : Nat)
    : (client.play rounds).Halts Unanswered Failed := by
  induction rounds generalizing client agent with
  | zero => exact .silent
  | succ rounds ih =>
    unfold play
    apply halts_bind (update_halts hagent hact)
    intro updated log hupdated
    rcases (update_obeys hagent hact).runs log _ hupdated with ⟨phase, -, hpost⟩
    rcases hpost updated rfl with ⟨-, agent', hagent', hact'⟩
    simp only
    split
    . exact .silent
    . exact ih hagent' hact'

theorem createContext_halts : createContext.Halts Unanswered Failed := by
  unfold createContext getUnitTypeData getAbilityData
  rw [getGameInfo_eq, getData_eq, getData_eq]
  apply halts_bind (halts_asking (.error _))
  intro gameInfo _ _
  apply halts_bind (halts_asking (.error _))
  intro unitTypeData _ _
  apply halts_bind (halts_asking (.error _))
  intro abilityData _ _
  exact .silent

theorem joinGameAs_halts (client : SC2Client σ) (state : σ)
    (update : σ → Observation → Agent.Program σ)
    : (client.joinGameAs state update).Halts Unanswered fun result =>
        Failed result ∨ result = .ok (false, client) := by
  have hjoin : (joinGame .protoss).Halts Unanswered fun result => result = .ok (-1) := by
    rw [joinGame_eq]
    apply Dialogue.Halts.asking
    intro reply hreply
    rcases hreply with ⟨-, hnone⟩
    simp only at hnone
    subst hnone
    rfl
  unfold joinGameAs
  apply hjoin.bind
  . intro fault hfault
    exact .inl (.error fault)
  . intro id hid
    cases hid
    exact ⟨_, rfl, .inr rfl⟩
  . intro id _ _
    split
    . exact .silent
    . apply createContext_halts.bind
      . intro fault _
        exact .inl (.error fault)
      . intro context hcontext
        exact absurd hcontext not_failed_ok
      . intro context _ _
        exact .silent

end SC2Client

namespace Main

open SC2Client

theorem tryMain_halts (state : σ) (update : σ → Observation → Agent.Program σ) (rounds : Nat)
    : (tryMain state update rounds).Halts Unanswered GivesUp := by
  have hping : ping.Halts Unanswered Failed := by
    rw [ping_eq]
    exact halts_asking (.error _)
  have hcreate : createGame.Halts Unanswered Failed := by
    rw [createGame_eq]
    exact halts_asking (.error _)
  unfold tryMain
  apply givesUp_bind hping
  intro pong _ _
  apply givesUp_bind hcreate
  intro created _ _
  split
  . exact .silent
  . apply (joinGameAs_halts _ state update).bind
    . intro fault _
      exact .error fault
    . intro joined hjoined
      rcases hjoined with hfailed | hjoined
      . exact absurd hfailed not_failed_ok
      . cases hjoined
        exact ⟨_, rfl, .ok id⟩
    . intro joined log hjoined
      rcases joined with ⟨joined, client⟩
      cases joined with
      | false => exact .silent
      | true =>
        rcases (joinGameAs_obeys _ state update).runs log _ hjoined with ⟨phase, -, hpost⟩
        rcases hpost _ rfl with ⟨-, agent, hagent, hact⟩
        apply givesUp_bind (play_halts hagent hact rounds)
        intro played _ _
        rcases played with ⟨res, client'⟩
        cases res with
        | none => exact .silent
        | some res => exact .silent

theorem main_halts (state : σ) (update : σ → Observation → Agent.Program σ) (rounds : Nat)
    : (main state update rounds).Halts Unanswered GivesUp := by
  have hattempt : (tryMain state update rounds).attempt.Halts Unanswered fun result =>
      ∃ inner, result = .ok inner ∧ GivesUp inner := by
    apply (tryMain_halts state update rounds).attempt
    intro inner hinner
    exact ⟨inner, rfl, hinner⟩
  unfold main
  apply hattempt.bind
  . intro fault _
    exact .error fault
  . intro result hresult
    rcases hresult with ⟨inner, heq, hinner⟩
    cases heq
    cases result with
    | ok ending => exact ⟨_, rfl, hinner⟩
    | error fault =>
      cases fault with
      | exception what => exact ⟨_, rfl, .ok id⟩
      | _ => exact ⟨_, rfl, .error _⟩
  . intro result _ _
    cases result with
    | ok ending => exact .silent
    | error fault =>
      cases fault with
      | exception what => exact .silent
      | _ => exact .silent

theorem next_ready {request : Proto.Request} {phase : Phase}
    (h : phases.next .ready request = some phase) : Essential request := by
  rcases request with ⟨_ | payload⟩
  . cases h
  . cases payload with
    | step step =>
      refine ⟨?_, ?_⟩
      . rintro ⟨query, hquery⟩
        cases hquery
      . rintro (hnone | ⟨actions, hactions⟩)
        . cases hnone
        . cases hactions
    | _ => cases h

theorem load_not_batch (load : Load) : ¬ IsBatch load.request := by
  rintro (hnone | ⟨actions, hactions⟩)
  . cases load <;> cases hnone
  . cases load <;> cases hactions

theorem next_batch {request : Proto.Request} {phase phase' : Phase} (hbatch : IsBatch request)
    (h : phases.next phase request = some phase') : phase' = .ready := by
  cases phase with
  | loading left =>
    rcases next_loading h with ⟨load, rfl⟩
    exact absurd hbatch (load_not_batch load)
  | acting =>
    rw [hbatch.next, Option.some_inj] at h
    exact h.symm
  | _ =>
    rcases request with ⟨payload⟩
    rcases hbatch with hnone | ⟨actions, hactions⟩
    . simp only at hnone
      subst hnone
      cases h
    . simp only at hactions
      subst hactions
      cases h

theorem rest_of_follow {phase phase' : Phase} {requests : List Proto.Request}
    (hfollow : phases.follow phase requests = some phase')
    (hlast : ∀ before request after, requests = before ++ request :: after → Essential request →
      after = [])
    : ∃ queries rest, requests = queries ++ rest ∧ (∀ request ∈ queries, IsQuery request) ∧
        rest.length ≤ 2 := by
  induction requests generalizing phase with
  | nil => exact ⟨[], [], rfl, by simp, by simp⟩
  | cons request requests ih =>
    rw [Protocol.follow_cons] at hfollow
    rcases Option.bind_eq_some_iff.mp hfollow with ⟨phase₁, hnext, hrest⟩
    by_cases hquery : IsQuery request
    . have hlast' : ∀ before request' after, requests = before ++ request' :: after →
          Essential request' → after = [] := by
        intro before request' after hsplit
        apply hlast (request :: before) request' after
        rw [hsplit, List.cons_append]
      rcases ih hrest hlast' with ⟨queries, rest, rfl, hqueries, hlength⟩
      refine ⟨request :: queries, rest, rfl, ?_, hlength⟩
      rw [List.forall_mem_cons]
      exact ⟨hquery, hqueries⟩
    . refine ⟨[], request :: requests, rfl, by simp, ?_⟩
      by_cases hbatch : IsBatch request
      . cases requests with
        | nil => simp
        | cons request' requests =>
          rw [next_batch hbatch hnext, Protocol.follow_cons] at hrest
          rcases Option.bind_eq_some_iff.mp hrest with ⟨phase₂, hstep, -⟩
          have hnil := hlast [request] request' requests rfl (next_ready hstep)
          simp [hnil]
      . have hnil := hlast [] request requests rfl ⟨hquery, hbatch⟩
        simp [hnil]

theorem main_lost (state : σ) (update : σ → Observation → Agent.Program σ) (rounds : Nat)
    {log before after : Exchanges} {result : Outcome Ending}
    (h : Dialogue.Runs (main state update rounds) log result) (hlog : log = before ++ after)
    (hlost : ∀ e ∈ after, e.2 = none)
    : (∃ queries rest, after.map Prod.fst = queries ++ rest ∧
        (∀ request ∈ queries, IsQuery request) ∧ rest.length ≤ 2) ∧
      ((∃ e ∈ after, Essential e.1) → GivesUp result) := by
  have hhalts := (main_halts state update rounds).runs log result h
  rcases (main_obeys state update rounds).runs log result h with ⟨phase, hfollow, -⟩
  rw [hlog, List.map_append, Protocol.follow_append] at hfollow
  rcases Option.bind_eq_some_iff.mp hfollow with ⟨phase₁, -, hafter⟩
  constructor
  . apply rest_of_follow hafter
    intro requests request requests' hsplit hessential
    rcases List.map_eq_append_iff.mp hsplit with ⟨mid, rest, rfl, -, hrest⟩
    rcases List.map_eq_cons_iff.mp hrest with ⟨e, tail, rfl, rfl, rfl⟩
    have hnone := hlost e (by simp)
    rw [(hhalts (before ++ mid) e tail (by simp [hlog]) ⟨hessential, hnone⟩).1]
    rfl
  . intro hexists
    rcases hexists with ⟨e, he, hessential⟩
    rcases List.append_of_mem he with ⟨mid, tail, rfl⟩
    exact (hhalts (before ++ mid) e tail (by simp [hlog]) ⟨hessential, hlost e he⟩).2

def fallsSilent (before : Exchanges) (request : Proto.Request) : Option Proto.Response :=
  if before.length < 7 then host 5 before request else none

theorem main_lost_silent
    : ∃ log result, Dialogue.Runs (main 0 greeter 5) log result ∧
        ∃ queries rest, (log.drop 7).map Prod.fst = queries ++ rest ∧
          (∀ request ∈ queries, IsQuery request) ∧ rest.length ≤ 2 := by
  rcases Dialogue.runs_exists fallsSilent (main 0 greeter 5) with ⟨log, result, hruns, hserve⟩
  have hlost : ∀ e ∈ log.drop 7, e.2 = none := by
    intro e he
    have hlength : 7 < log.length := by
      have hpos := List.length_pos_of_mem he
      rw [List.length_drop] at hpos
      omega
    rcases List.append_of_mem he with ⟨before, after, hsplit⟩
    have hlog : log = (log.take 7 ++ before) ++ e :: after := by
      rw [List.append_assoc, ← hsplit, List.take_append_drop]
    rw [hserve _ e.1 e.2 after hlog, fallsSilent, if_neg]
    rw [List.length_append, List.length_take]
    omega
  have hlog := (List.take_append_drop 7 log).symm
  exact ⟨log, result, hruns, (main_lost 0 greeter 5 hruns hlog hlost).1⟩

end Main

end Sc2
