import Mathlib.Data.List.Basic

/-!
This module contains greedy selections: round after round the first candidate that what is taken
already does not block is taken, if there is one. Candidates stay candidates after they are taken.
-/

namespace Greedy

variable {α : Type} (blocked : List α → α → Bool) (candidates : List α)

def next (taken : List α) : List α :=
  match candidates.find? (fun c => !blocked taken c) with
  | some c => taken ++ [c]
  | none => taken

def selection : Nat → List α
  | 0 => []
  | n + 1 => next blocked candidates (selection n)

variable {blocked : List α → α → Bool} {candidates : List α}

theorem selection_succ (n : Nat)
    : selection blocked candidates (n + 1)
        =
      next blocked candidates (selection blocked candidates n) := by
  rfl

theorem prefix_next (taken : List α) : taken <+: next blocked candidates taken := by
  unfold next
  split
  . apply List.prefix_append
  . apply List.prefix_rfl

theorem selection_prefix {m n : Nat} (h : m ≤ n)
    : selection blocked candidates m <+: selection blocked candidates n := by
  induction h with
  | refl => apply List.prefix_rfl
  | step _ ih => exact ih.trans (prefix_next _)

theorem mem_candidates {n : Nat} {c : α} (h : c ∈ selection blocked candidates n)
    : c ∈ candidates := by
  induction n with
  | zero => simp [selection] at h
  | succ n ih =>
    unfold selection next at h
    split at h
    . next c' hc' =>
      rw [List.mem_append, List.mem_singleton] at h
      rcases h with h | rfl
      . apply ih h
      . apply List.mem_of_find?_eq_some hc'
    . apply ih h

theorem next_eq_append (taken : List α) {c : α}
    (h : candidates.find? (fun c => !blocked taken c) = some c)
    : next blocked candidates taken = taken ++ [c] := by
  unfold next
  rw [h]

theorem next_eq_self {taken : List α}
    (h : candidates.find? (fun c => !blocked taken c) = none)
    : next blocked candidates taken = taken := by
  unfold next
  rw [h]

theorem selection_of_stuck {m n : Nat}
    (h : next blocked candidates (selection blocked candidates m) = selection blocked candidates m)
    (hmn : m ≤ n) : selection blocked candidates n = selection blocked candidates m := by
  induction hmn with
  | refl => rfl
  | step _ ih =>
    rw [selection_succ, ih, h]

end Greedy
