import Sc2pp.Util.Fault

/-!
This module contains runs of a machine whose step may fail, together with the rules that lift what
one step does to a whole run. `states` feeds the inputs to the step one after the other and records
the state after each of them. `states_of_last` is the rule for machines that remember their last
input: every input is read as a label, a state belongs to the label of the last input, and each step
is described by the last two labels. The label before the first input is given, and the default `d`
is never looked at.

For a machine whose step cannot fail, `List.scanl` lists the states it reaches and `steps` the inputs
with the state each of them meets. `scanl_invariant_iff` is the rule for a property that a step keeps
under a condition and under no other.
-/

namespace Run

variable {ε σ ι κ : Type}

def states (step : σ → ι → Except ε σ) (s : σ) : List ι → Except ε (List σ)
  | [] => pure []
  | i :: is => do
    let s ← step s i
    let rest ← states step s is
    pure (s :: rest)

variable {step : σ → ι → Except ε σ}

theorem states_cons_eq_ok {s : σ} {i : ι} {is : List ι} {ss : List σ}
    : states step s (i :: is) = .ok ss ↔
        ∃ s' rest, step s i = .ok s' ∧ states step s' is = .ok rest ∧ ss = s' :: rest := by
  simp only [states, Outcome.bind_eq_ok, Outcome.pure_eq_ok, Except.ok.injEq]
  constructor
  . intro h
    rcases h with ⟨s', hstep, rest, hrest, rfl⟩
    exact ⟨s', rest, hstep, hrest, rfl⟩
  . intro h
    rcases h with ⟨s', rest, hstep, hrest, rfl⟩
    exact ⟨s', hstep, rest, hrest, rfl⟩

theorem states_of_last {R : κ → σ → Prop} {Q : κ → κ → σ → Prop} {Label : ι → κ → Prop}
    (hstep : ∀ prev i cur s, R prev s → Label i cur →
      ∃ s', step s i = .ok s' ∧ R cur s' ∧ Q prev cur s')
    {is : List ι} {ks : List κ} (hlabel : List.Forall₂ Label is ks) (d prev : κ) (s : σ)
    (hs : R prev s)
    : ∃ ss, states step s is = .ok ss ∧ ss.length = ks.length ∧
        ∀ k (hk : k < ks.length) (hss : k < ss.length),
          Q ((prev :: ks).getD k d) ks[k] ss[k] := by
  induction hlabel generalizing prev s with
  | nil => exact ⟨[], rfl, rfl, by simp⟩
  | cons hik _ ih =>
    rcases hstep prev _ _ s hs hik with ⟨s', hs', hR, hQ⟩
    rcases ih _ s' hR with ⟨rest, hrest, hlen, hall⟩
    refine ⟨s' :: rest, ?_, by simp [hlen], ?_⟩
    . rw [states_cons_eq_ok]
      exact ⟨s', rest, hs', hrest, rfl⟩
    . intro k hk hss
      cases k with
      | zero => exact hQ
      | succ k => exact hall k (by simpa using hk) (by simpa using hss)

def steps (step : σ → ι → σ) (s : σ) : List ι → List (σ × ι)
  | [] => []
  | i :: is => (s, i) :: steps step (step s i) is

theorem scanl_invariant_iff {step : σ → ι → σ} {P : σ → Prop} {C : σ → ι → Prop}
    (hstep : ∀ s i, P s → (P (step s i) ↔ C s i)) {s : σ} (hs : P s) (is : List ι)
    : (∀ s' ∈ is.scanl step s, P s') ↔ ∀ e ∈ steps step s is, C e.1 e.2 := by
  induction is generalizing s with
  | nil => simpa [steps] using hs
  | cons i is ih =>
    simp only [List.scanl_cons, List.forall_mem_cons, steps]
    by_cases hc : C s i
    . rw [ih ((hstep s i hs).mpr hc)]
      simp [hs, hc]
    . have hnot : ¬ P (step s i) := mt (hstep s i hs).mp hc
      constructor
      . intro h
        exact absurd (h.2 _ (by cases is <;> simp)) hnot
      . intro h
        exact absurd h.1 hc

theorem steps_of_scanl {step : σ → ι → σ} {P : σ → Prop} {Q : σ → ι → Prop}
    (h : ∀ s i, P s → Q s i) {s : σ} {is : List ι} (hall : ∀ s' ∈ is.scanl step s, P s')
    : ∀ e ∈ steps step s is, Q e.1 e.2 := by
  induction is generalizing s with
  | nil => simp [steps]
  | cons i is ih =>
    simp only [List.scanl_cons, List.forall_mem_cons] at hall
    simp only [steps, List.forall_mem_cons]
    exact ⟨h s i hall.1, ih hall.2⟩

end Run
