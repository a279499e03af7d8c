import Mathlib.Order.Interval.Set.OrdConnected

/-!
This module contains facts about something that is there at some steps of a history and not at
others: when it appears, and why appearing at most once means that it never comes back.
-/

namespace Presence

variable {P : Nat → Prop}

def AppearsAt (P : Nat → Prop) (k : Nat) : Prop :=
  P k ∧ ∀ j, j + 1 = k → ¬ P j

theorem exists_appearsAt {l m : Nat} (hl : ∀ j, j + 1 = l → ¬ P j) (hlm : l ≤ m) (hm : P m)
    : ∃ k, l ≤ k ∧ k ≤ m ∧ AppearsAt P k := by
  induction m with
  | zero =>
    have : l = 0 := by omega
    subst this
    exact ⟨0, by omega, by omega, hm, hl⟩
  | succ m ih =>
    by_cases hP : P m
    . cases Nat.lt_or_eq_of_le hlm with
      | inl hlt =>
        rcases ih (by omega) hP with ⟨k, hlk, hkm, hk⟩
        exact ⟨k, hlk, by omega, hk⟩
      | inr heq => exact absurd hP (hl m heq.symm)
    . refine ⟨m + 1, hlm, by omega, hm, ?_⟩
      intro j hj
      have : j = m := by omega
      rwa [this]

theorem appears_once_iff
    : (∀ i j, i < j → AppearsAt P i → ¬ AppearsAt P j) ↔ Set.OrdConnected {k | P k} := by
  rw [Set.ordConnected_iff]
  constructor
  . intro honce i hi k hk hik j ⟨hij, hjk⟩
    by_contra hj
    -- It appears once up to `i` and once more after the gap at `j`.
    rcases exists_appearsAt (P := P) (l := 0) (by omega) (Nat.zero_le i) hi with ⟨a, -, hai, ha⟩
    have hjlt : j < k := lt_of_le_of_ne hjk (fun heq => hj (heq ▸ hk))
    obtain ⟨b, hjb, -, hb⟩ := exists_appearsAt (P := P) (l := j + 1)
      (fun j' hj' => by rwa [show j' = j by omega]) hjlt hk
    exact honce a b (by omega) ha hb
  . intro hconn i j hij hi hj
    have hlt : i ≤ j - 1 := by omega
    have hmem : j - 1 ∈ Set.Icc i j := ⟨hlt, by omega⟩
    have := hconn i hi.1 j hj.1 (by omega) hmem
    exact hj.2 (j - 1) (by omega) this

end Presence
