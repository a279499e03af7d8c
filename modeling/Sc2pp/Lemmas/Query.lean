import Sc2pp.Impl.Agent

/-!
This module contains the queries as one question each and what they make of the reply. `Answers` says
that a reply has an entry for everything a query asks about.
-/

namespace Sc2.Query

def abilitiesOf (reply : Option Proto.Response) : Outcome (List AvailableAbilities) :=
  match reply with
  | none => .ok []
  | some response =>
    match response.query? with
    | none => .error (.exception "Query::abilities: wrong response")
    | some query => .ok (query.abilities.map AvailableAbilities.fromProto)

def placementOf (reply : Option Proto.Response) : Outcome Bool :=
  match reply with
  | none => .ok false
  | some response =>
    match response.query? with
    | none => .error (.exception "Query::placements: wrong response")
    | some query =>
      match query.placements with
      | [placement] => .ok (placement.result.getD .success == .success)
      | _ => .error .assertFailed

theorem abilities_nil (ignore : Bool) : abilities [] ignore = pure [] := by
  rfl

theorem abilities_eq {units : Units} (h : units.isEmpty = false) (ignore : Bool)
    : abilities units ignore = Dialogue.asking (abilitiesRequest units ignore) abilitiesOf := by
  unfold abilities
  rw [h]
  apply Dialogue.send_bind_eq_asking
  intro reply
  cases reply with
  | none => rfl
  | some response =>
    simp only [abilitiesOf]
    cases response.query? with
    | none => rfl
    | some query =>
      cases habilities : query.abilities with
      | nil =>
        simp only [habilities]
        rfl
      | cons entry entries =>
        simp only [habilities]
        rfl

theorem abilitiesOfUnit_eq (unit : Unit) (ignore : Bool)
    : abilitiesOfUnit unit ignore
        =
      Dialogue.asking (abilitiesRequest [unit] ignore) fun reply =>
        abilitiesOf reply >>= fun found => Outcome.elementAt found 0 := by
  unfold abilitiesOfUnit
  simp only
  rw [abilities_eq rfl]
  apply Dialogue.bind_asking (fun _ => rfl)

theorem placement_eq (building : AbilityId) (pos : Point2D) (ignore : Bool)
    : placement building pos ignore
        =
      Dialogue.asking (placementRequest building pos ignore) placementOf := by
  unfold placement
  apply Dialogue.send_bind_eq_asking
  intro reply
  cases reply with
  | none => rfl
  | some response =>
    simp only [placementOf]
    cases response.query? with
    | none => rfl
    | some query =>
      simp only
      cases query.placements with
      | nil => rfl
      | cons placement placements =>
        cases placements with
        | nil => rfl
        | cons _ _ => rfl

def Answers (request : Proto.RequestQuery) (reply : Option Proto.Response) : Prop :=
  ∃ response query, reply = some response ∧ response.query? = some query ∧
    query.abilities.length = request.abilities.length ∧
    query.placements.length = request.placements.length

theorem abilitiesOf_answered {unit : Unit} {units : Units} {ignore : Bool}
    {reply : Option Proto.Response}
    (h : Answers {
        ignoreResourceRequirements := some ignore
        abilities := (unit :: units).map fun unit => { unitTag := some unit.tag }
      } reply)
    : ∃ entry entries, abilitiesOf reply = .ok (entry :: entries) := by
  rcases h with ⟨response, query, rfl, hquery, hlength, -⟩
  simp only [abilitiesOf, hquery]
  cases habilities : query.abilities with
  | nil => simp [habilities] at hlength
  | cons entry entries => exact ⟨_, _, rfl⟩

theorem placementOf_answered {building : AbilityId} {pos : Point2D} {ignore : Bool}
    {reply : Option Proto.Response}
    (h : Answers {
        ignoreResourceRequirements := some ignore
        placements := [{ abilityId := some building.val, targetPos := some pos.toProto }]
      } reply)
    : ∃ possible, placementOf reply = .ok possible := by
  rcases h with ⟨response, query, rfl, hquery, -, hlength⟩
  simp only [placementOf, hquery]
  rcases List.length_eq_one_iff.mp hlength with ⟨placement, hplacement⟩
  simp [hplacement]

namespace Call

def requests : Call → List Proto.Request
  | abilities units ignore => if units.isEmpty then [] else [abilitiesRequest units ignore]
  | abilitiesOfUnit unit ignore => [abilitiesRequest [unit] ignore]
  | placement building pos ignore => [placementRequest building pos ignore]

theorem run_cases (call : Call)
    : (call.requests = [] ∧ ∃ answer, call.run = pure answer) ∨
      ∃ request f, call.requests = [{ payload := some (.query request) }] ∧
        call.run = Dialogue.asking { payload := some (.query request) } f ∧
        ∀ reply, Answers request reply → ∃ answer, f reply = .ok answer := by
  cases call with
  | abilities units ignore =>
    cases units with
    | nil => exact .inl ⟨rfl, _, rfl⟩
    | cons unit units =>
      refine .inr ⟨_, fun reply => abilitiesOf reply >>= fun found => .ok (.abilities found), rfl, ?_,
        ?_⟩
      . simp only [run]
        rw [Query.abilities_eq rfl]
        apply Dialogue.bind_asking (fun _ => rfl)
      . intro reply hreply
        rcases abilitiesOf_answered hreply with ⟨entry, entries, hentries⟩
        simp only [hentries]
        exact ⟨_, rfl⟩
  | abilitiesOfUnit unit ignore =>
    refine .inr ⟨_, fun reply => (abilitiesOf reply >>= fun found => Outcome.elementAt found 0) >>=
      fun found => .ok (.abilitiesOfUnit found), rfl, ?_, ?_⟩
    . simp only [run]
      rw [abilitiesOfUnit_eq]
      apply Dialogue.bind_asking (fun _ => rfl)
    . intro reply hreply
      rcases abilitiesOf_answered hreply with ⟨entry, entries, hentries⟩
      simp only [hentries]
      exact ⟨_, rfl⟩
  | placement building pos ignore =>
    refine .inr ⟨_, fun reply => placementOf reply >>= fun possible => .ok (.placement possible), rfl,
      ?_, ?_⟩
    . simp only [run]
      rw [placement_eq]
      apply Dialogue.bind_asking (fun _ => rfl)
    . intro reply hreply
      rcases placementOf_answered hreply with ⟨possible, hpossible⟩
      simp only [hpossible]
      exact ⟨_, rfl⟩

theorem runs_requests {call : Call} {log : List (Proto.Request × Option Proto.Response)}
    {result : Outcome Answer} (h : Dialogue.Runs call.run log result)
    : log.map Prod.fst = call.requests := by
  rcases call.run_cases with ⟨hrequests, answer, hrun⟩ | ⟨request, f, hrequests, hrun, -⟩
  . rw [hrun] at h
    rw [(Dialogue.runs_pure_iff.mp h).1, hrequests, List.map_nil]
  . rw [hrun] at h
    rcases Dialogue.runs_asking_iff.mp h with ⟨reply, rfl, -⟩
    rw [hrequests]
    rfl

theorem runs_answered {call : Call} {log : List (Proto.Request × Option Proto.Response)}
    {result : Outcome Answer} (h : Dialogue.Runs call.run log result)
    (hlog : ∀ e ∈ log, ∀ request, e.1.payload = some (.query request) → Answers request e.2)
    : ∃ answer, result = .ok answer := by
  rcases call.run_cases with ⟨-, answer, hrun⟩ | ⟨request, f, -, hrun, hanswers⟩
  . rw [hrun] at h
    exact ⟨answer, (Dialogue.runs_pure_iff.mp h).2⟩
  . rw [hrun] at h
    rcases Dialogue.runs_asking_iff.mp h with ⟨reply, rfl, rfl⟩
    apply hanswers reply (hlog _ (List.mem_singleton.mpr rfl) request rfl)

end Call

end Sc2.Query
