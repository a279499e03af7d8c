import Mathlib.Data.List.Basic

/-!
This module contains choices of an order. Whatever is free to choose the order of a list, such as a
shuffle or the iteration over a hash map, is a `Reordering`: it gives every list some order of its
elements.
-/

structure Reordering (α : Type) where
  apply : List α → List α
  perm : ∀ xs, (apply xs).Perm xs

namespace Reordering

variable {α : Type}

def keep : Reordering α where
  apply xs := xs
  perm _ := .refl _

def choose [DecidableEq α] {from' to' : List α} (h : to'.Perm from') : Reordering α where
  apply xs := if xs = from' then to' else xs
  perm xs := by
    split
    . next heq =>
      rw [heq]
      exact h
    . exact .refl xs

theorem choose_apply [DecidableEq α] {from' to' : List α} (h : to'.Perm from')
    : (choose h).apply from' = to' := by
  apply if_pos rfl

@[simp]
theorem apply_nil (r : Reordering α) : r.apply [] = [] := by
  apply (r.perm []).eq_nil

@[simp]
theorem mem_apply (r : Reordering α) {x : α} {xs : List α} : x ∈ r.apply xs ↔ x ∈ xs := by
  apply (r.perm xs).mem_iff

end Reordering
