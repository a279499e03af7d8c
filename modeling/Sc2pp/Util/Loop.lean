import Mathlib.Order.Basic

/-!
This module contains `while` loops whose body may return. A `Loop` carries a variant: a number that is
positive whenever the body runs and smaller after it, so running the body as often as the variant
says runs the loop to its end. `Ends` counts how often the body runs.

The result of a loop is what the body returned or the state in which the condition failed.

An `Inquiry` is a loop that asks a question in each round, its variant gets smaller whatever the
answer is. Who answers is up to the monad it runs in. With an answer that is a function of the state
it is a `Loop`.
-/

structure Loop (σ β : Type) where
  cond : σ → Bool
  body : σ → β ⊕ σ
  variant : σ → Nat
  variant_pos : ∀ s, cond s = true → 0 < variant s
  variant_lt : ∀ s s', cond s = true → body s = .inr s' → variant s' < variant s

namespace Loop

variable {σ β : Type}

def runFor (loop : Loop σ β) : Nat → σ → β ⊕ σ
  | 0, s => .inr s
  | n + 1, s =>
    if loop.cond s then
      match loop.body s with
      | .inl b => .inl b
      | .inr s' => runFor loop n s'
    else
      .inr s

def run (loop : Loop σ β) (s : σ) : β ⊕ σ :=
  loop.runFor (loop.variant s) s

inductive Ends (loop : Loop σ β) : σ → Nat → β ⊕ σ → Prop where
  | exits {s : σ} : loop.cond s = false → Ends loop s 0 (.inr s)
  | returns {s : σ} {b : β} : loop.cond s = true → loop.body s = .inl b → Ends loop s 1 (.inl b)
  | goesOn {s s' : σ} {n : Nat} {result : β ⊕ σ}
    : loop.cond s = true → loop.body s = .inr s' → Ends loop s' n result →
      Ends loop s (n + 1) result

theorem ends_runFor (loop : Loop σ β) (fuel : Nat) (s : σ) (hfuel : loop.variant s ≤ fuel)
    : ∃ n, n ≤ loop.variant s ∧ loop.Ends s n (loop.runFor fuel s) := by
  induction fuel generalizing s with
  | zero =>
    have hcond : loop.cond s = false := by
      rw [Bool.eq_false_iff]
      intro hcond
      have hpos := loop.variant_pos s hcond
      omega
    exact ⟨0, Nat.zero_le _, .exits hcond⟩
  | succ fuel ih =>
    unfold runFor
    cases hcond : loop.cond s with
    | false => exact ⟨0, Nat.zero_le _, .exits hcond⟩
    | true =>
      cases hbody : loop.body s with
      | inl b => exact ⟨1, loop.variant_pos s hcond, .returns hcond hbody⟩
      | inr s' =>
        have hlt := loop.variant_lt s s' hcond hbody
        rcases ih s' (by omega) with ⟨n, hn, hends⟩
        exact ⟨n + 1, by omega, .goesOn hcond hbody hends⟩

theorem ends_run (loop : Loop σ β) (s : σ)
    : ∃ n, n ≤ loop.variant s ∧ loop.Ends s n (loop.run s) := by
  apply ends_runFor
  apply Nat.le_refl

theorem Ends.invariant {loop : Loop σ β} {Inv : σ → Prop}
    (hbody : ∀ s s', loop.cond s = true → loop.body s = .inr s' → Inv s → Inv s')
    {s : σ} {n : Nat} {result : β ⊕ σ} (h : loop.Ends s n result) (hs : Inv s)
    : (∃ s', result = .inr s' ∧ Inv s' ∧ loop.cond s' = false) ∨
      ∃ b s', result = .inl b ∧ Inv s' ∧ loop.cond s' = true ∧ loop.body s' = .inl b := by
  induction h with
  | exits hcond => exact .inl ⟨_, rfl, hs, hcond⟩
  | returns hcond hreturn => exact .inr ⟨_, _, rfl, hs, hcond, hreturn⟩
  | goesOn hcond hnext _ ih => exact ih (hbody _ _ hcond hnext hs)

theorem run_cases (loop : Loop σ β) {Inv : σ → Prop}
    (hbody : ∀ s s', loop.cond s = true → loop.body s = .inr s' → Inv s → Inv s') {s : σ}
    (hs : Inv s)
    : (∃ s', loop.run s = .inr s' ∧ Inv s' ∧ loop.cond s' = false) ∨
      ∃ b s', loop.run s = .inl b ∧ Inv s' ∧ loop.cond s' = true ∧ loop.body s' = .inl b := by
  rcases loop.ends_run s with ⟨n, -, hends⟩
  apply hends.invariant hbody hs

end Loop

structure Inquiry (σ α β : Type) where
  cond : σ → Bool
  next : σ → α → β ⊕ σ
  variant : σ → Nat
  variant_pos : ∀ s, cond s = true → 0 < variant s
  variant_lt : ∀ s a s', cond s = true → next s a = .inr s' → variant s' < variant s

namespace Inquiry

variable {σ α β : Type}

section

variable {m : Type → Type} [Monad m]

def runFor (inquiry : Inquiry σ α β) (ask : σ → m α) : Nat → σ → m (β ⊕ σ)
  | 0, s => pure (.inr s)
  | n + 1, s =>
    if inquiry.cond s then do
      match inquiry.next s (← ask s) with
      | .inl b => pure (.inl b)
      | .inr s' => runFor inquiry ask n s'
    else
      pure (.inr s)

def run (inquiry : Inquiry σ α β) (ask : σ → m α) (s : σ) : m (β ⊕ σ) :=
  inquiry.runFor ask (inquiry.variant s) s

end

def loop (inquiry : Inquiry σ α β) (ask : σ → α) : Loop σ β where
  cond := inquiry.cond
  body s := inquiry.next s (ask s)
  variant := inquiry.variant
  variant_pos := inquiry.variant_pos
  variant_lt s s' hcond hbody := inquiry.variant_lt s (ask s) s' hcond hbody

theorem runFor_id (inquiry : Inquiry σ α β) (ask : σ → Id α) (n : Nat) (s : σ)
    : inquiry.runFor ask n s = (inquiry.loop ask).runFor n s := by
  induction n generalizing s with
  | zero => rfl
  | succ n ih =>
    simp only [runFor, Loop.runFor]
    change (if inquiry.cond s = true then _ else _) = if inquiry.cond s = true then _ else _
    split
    . change (match inquiry.next s (ask s) with
        | .inl b => (.inl b : β ⊕ σ)
        | .inr s' => inquiry.runFor ask n s') = match inquiry.next s (ask s) with
        | .inl b => .inl b
        | .inr s' => (inquiry.loop ask).runFor n s'
      cases inquiry.next s (ask s) with
      | inl b => rfl
      | inr s' => exact ih s'
    . rfl

theorem run_id (inquiry : Inquiry σ α β) (ask : σ → Id α) (s : σ)
    : inquiry.run ask s = (inquiry.loop ask).run s := by
  apply runFor_id

end Inquiry
