import Sc2pp.Lemmas.Agent
import Sc2pp.Util.Loop

/-!
This module contains the rules for programs that are put together with `do`. What a program `Ensures`
holds of everything it intended when it ends and of its result. What a query was answered is found in
its exchange.
-/

namespace Sc2.Agent

namespace Intent

def task? : Intent → Option Task
  | .act (.commandTask task _) => some task
  | _ => none

def tasks (intents : List Intent) : List Task :=
  intents.filterMap task?

def answered? : Intent → Option (Query.Call × Query.Answer)
  | .act _ => none
  | .query call log => (call.run.replay log).bind fun result => (result.toOption).map (call, ·)

def answered (intents : List Intent) : List (Query.Call × Query.Answer) :=
  intents.filterMap answered?

@[simp]
theorem tasks_append (intents intents' : List Intent)
    : tasks (intents ++ intents') = tasks intents ++ tasks intents' := by
  apply List.filterMap_append

@[simp]
theorem answered_append (intents intents' : List Intent)
    : answered (intents ++ intents') = answered intents ++ answered intents' := by
  apply List.filterMap_append

theorem answered_query {call : Query.Call} {log : Exchanges} {answer : Query.Answer}
    (h : Dialogue.Runs call.run log (.ok answer))
    : answered [.query call log] = [(call, answer)] := by
  simp [answered, answered?, Dialogue.replay_of_runs h, Except.toOption]

end Intent

variable {α β γ : Type}

theorem plays_bind_iff {issued : List Actions.Call} {program : Program α} {f : α → Program β}
    {intents : List Intent} {b : β}
    : Plays issued (program >>= f) intents b
        ↔
      ∃ a intents₁ intents₂, Plays issued program intents₁ a ∧
        Plays (issued ++ Intent.calls intents₁) (f a) intents₂ b ∧ intents = intents₁ ++ intents₂ := by
  change Plays issued (program.bind f) intents b ↔ _
  induction program generalizing issued intents with
  | done a =>
    constructor
    . intro h
      refine ⟨a, [], intents, .done _ _, ?_, rfl⟩
      rw [Intent.calls, List.append_nil]
      exact h
    . intro h
      rcases h with ⟨a', _, intents₂, hdone, h, rfl⟩
      cases hdone
      rw [Intent.calls, List.append_nil] at h
      exact h
  | fail fault =>
    constructor
    . intro h
      cases h
    . intro h
      rcases h with ⟨a', intents₁, intents₂, hfail, -⟩
      cases hfail
  | act call k ih =>
    constructor
    . intro h
      cases h with
      | act h =>
        rcases ih.mp h with ⟨a, intents₁, intents₂, h₁, h₂, rfl⟩
        refine ⟨a, .act call :: intents₁, intents₂, .act h₁, ?_, rfl⟩
        simpa [Intent.calls] using h₂
    . intro h
      rcases h with ⟨a, _, intents₂, hact, h₂, rfl⟩
      cases hact with
      | act h₁ =>
        refine .act (ih.mpr ⟨a, _, intents₂, h₁, ?_, rfl⟩)
        simpa [Intent.calls] using h₂
  | has k ih =>
    constructor
    . intro h
      cases h with
      | has h =>
        rcases (ih _).mp h with ⟨a, intents₁, intents₂, h₁, h₂, rfl⟩
        exact ⟨a, intents₁, intents₂, .has h₁, h₂, rfl⟩
    . intro h
      rcases h with ⟨a, _, intents₂, hhas, h₂, rfl⟩
      cases hhas with
      | has h₁ => exact .has ((ih _).mpr ⟨a, _, intents₂, h₁, h₂, rfl⟩)
  | query call k ih =>
    constructor
    . intro h
      cases h with
      | answer hcall h =>
        rcases (ih _).mp h with ⟨a, intents₁, intents₂, h₁, h₂, rfl⟩
        exact ⟨a, _, intents₂, .answer hcall h₁, h₂, rfl⟩
      | threw hcall h =>
        rcases (ih _).mp h with ⟨a, intents₁, intents₂, h₁, h₂, rfl⟩
        exact ⟨a, _, intents₂, .threw hcall h₁, h₂, rfl⟩
    . intro h
      rcases h with ⟨a, _, intents₂, hquery, h₂, rfl⟩
      cases hquery with
      | answer hcall h₁ => exact .answer hcall ((ih _).mpr ⟨a, _, intents₂, h₁, h₂, rfl⟩)
      | threw hcall h₁ => exact .threw hcall ((ih _).mpr ⟨a, _, intents₂, h₁, h₂, rfl⟩)

namespace Program

structure Ensures (program : Program α) (post : List Intent → α → Prop) : Prop where
  plays : ∀ issued intents a, Plays issued program intents a → post intents a

variable {post : List Intent → α → Prop}

theorem Ensures.pure {a : α} (h : post [] a) : Ensures (pure a) post := by
  constructor
  intro issued intents a' hplays
  cases hplays
  exact h

theorem Ensures.lift {outcome : Outcome α} (h : ∀ a, outcome = .ok a → post [] a)
    : Ensures (liftM outcome) post := by
  constructor
  intro issued intents a' hplays
  cases outcome with
  | ok a =>
    cases hplays
    apply h a' rfl
  | error fault => cases hplays

theorem Ensures.bind {program : Program α} {f : α → Program β} {post' : List Intent → β → Prop}
    (hprogram : Ensures program post)
    (hf : ∀ intents a, post intents a → Ensures (f a) fun intents' b => post' (intents ++ intents') b)
    : Ensures (program >>= f) post' := by
  constructor
  intro issued intents b hplays
  rcases plays_bind_iff.mp hplays with ⟨a, intents₁, intents₂, h₁, h₂, rfl⟩
  apply (hf intents₁ a (hprogram.plays _ _ _ h₁)).plays _ _ _ h₂

theorem Ensures.lift_bind {outcome : Outcome α} {f : α → Program β}
    {post : List Intent → β → Prop} (hf : ∀ a, outcome = .ok a → Ensures (f a) post)
    : Ensures (liftM outcome >>= f) post := by
  cases outcome with
  | ok a => exact hf a rfl
  | error fault =>
    constructor
    intro issued intents b hplays
    cases hplays

theorem Ensures.imp {program : Program α} {post' : List Intent → α → Prop}
    (hprogram : Ensures program post) (himp : ∀ intents a, post intents a → post' intents a)
    : Ensures program post' := by
  constructor
  intro issued intents a hplays
  apply himp intents a (hprogram.plays issued intents a hplays)

theorem Ensures.command {call : Actions.Call} {post : List Intent → PUnit → Prop}
    (h : post [.act call] ⟨⟩) : Ensures (command call) post := by
  constructor
  intro issued intents a hplays
  cases hplays with
  | act hdone =>
    cases hdone
    exact h

theorem Ensures.command_bind {call : Actions.Call} {f : PUnit → Program β}
    {post : List Intent → β → Prop}
    (hf : Ensures (f ⟨⟩) fun intents b => post (.act call :: intents) b)
    : Ensures (Program.command call >>= f) post := by
  constructor
  intro issued intents b hplays
  cases hplays with
  | act hplays => exact hf.plays _ _ _ hplays

theorem Ensures.asking {call : Query.Call} {f : Query.Answer → Option α}
    (h : ∀ log answer a, Dialogue.Runs call.run log (.ok answer) → f answer = some a →
      post [.query call log] a)
    : Ensures (asking call f) post := by
  constructor
  intro issued intents a hplays
  cases hplays with
  | answer hcall hplays =>
    next log answer intents =>
      simp only at hplays
      cases hf : f answer with
      | none =>
        rw [hf] at hplays
        cases hplays
      | some a' =>
        rw [hf] at hplays
        cases hplays
        apply h log answer a hcall hf
  | threw hcall hplays => cases hplays

theorem Ensures.forM {xs : List α} {f : α → Program PUnit} {Inv : List Intent → Prop} (hnil : Inv [])
    (happend : ∀ intents intents', Inv intents → Inv intents' → Inv (intents ++ intents'))
    (hf : ∀ x, Ensures (f x) fun intents _ => Inv intents)
    : Ensures (xs.forM f) fun intents _ => Inv intents := by
  induction xs with
  | nil => exact .pure hnil
  | cons x xs ih =>
    apply (hf x).bind
    intro intents _ hx
    apply ih.imp
    intro intents' _ hxs
    apply happend intents intents' hx hxs

theorem Ensures.findSomeM? {xs : List α} {f : α → Program (Option β)}
    {Inv : List Intent → Option β → Prop} (hnil : Inv [] none)
    (happend : ∀ intents intents' found, Inv intents none → Inv intents' found →
      Inv (intents ++ intents') found)
    (hf : ∀ x ∈ xs, Ensures (f x) Inv) : Ensures (xs.findSomeM? f) Inv := by
  induction xs with
  | nil => exact .pure hnil
  | cons x xs ih =>
    rw [List.findSomeM?]
    apply (hf x (by simp)).bind
    intro intents found hx
    cases found with
    | some b =>
      apply Ensures.pure
      rw [List.append_nil]
      exact hx
    | none =>
      apply (ih fun x' hx' => hf x' (by simp [hx'])).imp
      intro intents' found' hxs
      apply happend intents intents' found' hx hxs

theorem Ensures.inquiry {σ : Type} {inquiry : Inquiry σ α β} {ask : σ → Program α}
    {Inv : List Intent → β ⊕ σ → Prop} (hnil : ∀ s, Inv [] (.inr s))
    (happend : ∀ intents intents' s result, Inv intents (.inr s) → Inv intents' result →
      Inv (intents ++ intents') result)
    (hask : ∀ s, inquiry.cond s = true →
      Ensures (ask s) fun intents a => Inv intents (inquiry.next s a))
    (s : σ) : Ensures (inquiry.run ask s) Inv := by
  have hfuel : ∀ n s, Ensures (inquiry.runFor ask n s) Inv := by
    intro n
    induction n with
    | zero =>
      intro s
      exact .pure (hnil s)
    | succ n ih =>
      intro s
      unfold Inquiry.runFor
      split
      . next hcond =>
        apply (hask s hcond).bind
        intro intents a hnext
        cases hstep : inquiry.next s a with
        | inl b =>
          apply Ensures.pure
          rw [List.append_nil, ← hstep]
          exact hnext
        | inr s' =>
          apply (ih s').imp
          intro intents' result hrest
          rw [hstep] at hnext
          apply happend intents intents' s' result hnext hrest
      . exact .pure (hnil s)
  apply hfuel

end Program

end Sc2.Agent
