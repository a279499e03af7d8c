import Mathlib.Data.List.Nodup

/-!
This module contains caches that keep what was computed for a key. `tryEmplace` computes the value of a
key that is not there, and says whether it did. A memo is `Correct` if it holds nothing but values of
the function, it then answers like the function and computes each of its values once.
-/

structure Memo (K V : Type) where
  entries : List (K × V)
  nodup : (entries.map Prod.fst).Nodup

namespace Memo

variable {K V : Type} [DecidableEq K]

def keys (memo : Memo K V) : List K :=
  memo.entries.map Prod.fst

def new : Memo K V where
  entries := []
  nodup := List.nodup_nil

theorem not_mem_of_lookup {entries : List (K × V)} {key : K} (h : entries.lookup key = none)
    : key ∉ entries.map Prod.fst := by
  intro hmem
  rcases List.mem_map.mp hmem with ⟨e, he, rfl⟩
  rw [List.lookup_eq_none_iff] at h
  have hne := h e he
  simp at hne

theorem nodup_emplace {entries : List (K × V)} (h : (entries.map Prod.fst).Nodup) {key : K}
    (hlookup : entries.lookup key = none) (v : V)
    : ((entries ++ [(key, v)]).map Prod.fst).Nodup := by
  rw [List.map_append, List.map_singleton, List.nodup_append]
  refine ⟨h, List.nodup_singleton key, ?_⟩
  intro k hk k' hk'
  rw [List.mem_singleton] at hk'
  subst hk'
  intro heq
  subst heq
  exact not_mem_of_lookup hlookup hk

structure Emplaced (K V : Type) where
  value : V
  isNew : Bool
  memo : Memo K V

def Emplaced.made (emplaced : Emplaced K V) (key : K) : List K :=
  if emplaced.isNew then [key] else []

def tryEmplace (memo : Memo K V) (key : K) (make : K → V) : Emplaced K V :=
  match h : memo.entries.lookup key with
  | some v => { value := v, isNew := false, memo := memo }
  | none =>
    {
      value := make key
      isNew := true
      memo := {
        entries := memo.entries ++ [(key, make key)]
        nodup := nodup_emplace memo.nodup h (make key)
      }
    }

structure Correct (memo : Memo K V) (f : K → V) : Prop where
  values : ∀ e ∈ memo.entries, e.2 = f e.1

omit [DecidableEq K] in
theorem Correct.new (f : K → V) : (new : Memo K V).Correct f where
  values := by
    intro e he
    cases he

structure Emplaces (memo : Memo K V) (key : K) (f : K → V) (emplaced : Emplaced K V) : Prop where
  value : emplaced.value = f key
  isNew : emplaced.isNew = true ↔ key ∉ memo.keys
  keys : emplaced.memo.keys = memo.keys ++ emplaced.made key
  correct : emplaced.memo.Correct f

theorem Correct.tryEmplace {memo : Memo K V} {f : K → V} (h : memo.Correct f) (key : K)
    : memo.Emplaces key f (memo.tryEmplace key f) := by
  unfold Memo.tryEmplace
  split
  . next v hlookup =>
    have hmem : (key, v) ∈ memo.entries := by
      rcases List.lookup_eq_some_iff.mp hlookup with ⟨before, after, heq, -⟩
      simp [heq]
    have hkey : key ∈ memo.keys := List.mem_map_of_mem (f := Prod.fst) hmem
    constructor
    . exact h.values _ hmem
    . simpa using hkey
    . simp [Emplaced.made]
    . exact h
  . next hlookup =>
    have hnot : key ∉ memo.keys := not_mem_of_lookup hlookup
    constructor
    . rfl
    . simpa using hnot
    . simp [Memo.keys, Emplaced.made]
    . constructor
      intro e he
      rcases List.mem_append.mp he with he | he
      . exact h.values e he
      . rw [List.mem_singleton] at he
        subst he
        rfl

omit [DecidableEq K] in
theorem Emplaces.mem_made {memo : Memo K V} {key : K} {f : K → V} {emplaced : Emplaced K V}
    (h : memo.Emplaces key f emplaced) {key' : K}
    : key' ∈ emplaced.made key ↔ key' = key ∧ key ∉ memo.keys := by
  rw [← h.isNew]
  unfold Emplaced.made
  split
  . next hnew => simp [hnew]
  . next hold => simp [hold]

omit [DecidableEq K] in
theorem Emplaces.mem_keys {memo : Memo K V} {key : K} {f : K → V} {emplaced : Emplaced K V}
    (h : memo.Emplaces key f emplaced) {key' : K}
    : key' ∈ emplaced.memo.keys ↔ key' ∈ memo.keys ∨ key' = key := by
  rw [h.keys, List.mem_append, h.mem_made]
  constructor
  . intro hmem
    exact hmem.imp_right And.left
  . intro hmem
    rcases hmem with hold | rfl
    . exact .inl hold
    . by_cases hold : key' ∈ memo.keys
      . exact .inl hold
      . exact .inr ⟨rfl, hold⟩

omit [DecidableEq K] in
theorem Emplaced.nodup_made (emplaced : Emplaced K V) (key : K) : (emplaced.made key).Nodup := by
  unfold made
  split
  . exact List.nodup_singleton key
  . exact List.nodup_nil

structure Ran (K V : Type) where
  values : List V
  made : List K
  memo : Memo K V

def run (memo : Memo K V) (f : K → V) : List K → Ran K V
  | [] => { values := [], made := [], memo := memo }
  | key :: asked =>
    let emplaced := memo.tryEmplace key f
    let rest := run emplaced.memo f asked
    {
      values := emplaced.value :: rest.values
      made := emplaced.made key ++ rest.made
      memo := rest.memo
    }

structure Runs (memo : Memo K V) (f : K → V) (asked : List K) (ran : Ran K V) : Prop where
  values : ran.values = asked.map f
  keys : ran.memo.keys = memo.keys ++ ran.made
  made : ∀ key, key ∈ ran.made ↔ key ∈ asked ∧ key ∉ memo.keys
  nodup : ran.made.Nodup
  correct : ran.memo.Correct f

theorem Correct.run {memo : Memo K V} {f : K → V} (h : memo.Correct f) (asked : List K)
    : memo.Runs f asked (memo.run f asked) := by
  induction asked generalizing memo with
  | nil =>
    constructor
    . rfl
    . exact (List.append_nil _).symm
    . simp [Memo.run]
    . exact List.nodup_nil
    . exact h
  | cons key asked ih =>
    have hstep := h.tryEmplace key
    have hrest := ih hstep.correct
    unfold Memo.run
    simp only
    constructor
    . rw [hstep.value, hrest.values, List.map_cons]
    . rw [hrest.keys, hstep.keys, List.append_assoc]
    . intro key'
      rw [List.mem_append, hstep.mem_made, hrest.made, hstep.mem_keys, List.mem_cons]
      by_cases heq : key' = key
      . subst heq
        simp
      . simp [heq]
    . apply List.nodup_append.mpr
      refine ⟨Emplaced.nodup_made _ key, hrest.nodup, ?_⟩
      intro made hmade made' hmade' heq
      subst heq
      rw [hrest.made, hstep.mem_keys] at hmade'
      apply hmade'.2
      exact .inr (hstep.mem_made.mp hmade).1
    . exact hrest.correct

end Memo
