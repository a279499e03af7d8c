import Mathlib.Data.List.Forall2

/-!
This module contains the ways in which a C++ function can end without returning a value, and the
rules that take a computation which may end so apart. Of these ways only an exception is behaviour
the language defines, and the only one a caller can handle. A failed `assert` aborts the process, the
rest is undefined behaviour: a null pointer that is dereferenced, an element past the end of a
container, signed arithmetic that leaves the range of `int`.
-/

inductive Fault where
  | exception (what : String)
  | assertFailed
  | nullDeref
  | outOfRange
  | intOverflow
  deriving DecidableEq, Repr

abbrev Outcome := Except Fault

namespace Outcome

def assertThat (cond : Bool) : Outcome Unit :=
  if cond then pure () else throw .assertFailed

def elementAt (elements : List α) (idx : Nat) : Outcome α :=
  match elements[idx]? with
  | some x => pure x
  | none => throw .outOfRange

def deref (pointer : Option α) : Outcome α :=
  match pointer with
  | some x => pure x
  | none => throw .nullDeref

variable {ε : Type u} {α β : Type v} {γ : Type}

@[simp]
theorem bind_ok (a : α) (f : α → Except ε β) : ((.ok a : Except ε α) >>= f) = f a := by
  rfl

@[simp]
theorem bind_error (e : ε) (f : α → Except ε β) : ((.error e : Except ε α) >>= f) = .error e := by
  rfl

@[simp]
theorem pure_eq_ok (a : α) : (pure a : Except ε α) = .ok a := by
  rfl

@[simp]
theorem throw_eq_error (e : ε) : (throw e : Except ε α) = .error e := by
  rfl

theorem bind_eq_ok {x : Except ε α} {f : α → Except ε β} {b : β}
    : (x >>= f) = .ok b ↔ ∃ a, x = .ok a ∧ f a = .ok b := by
  cases x with
  | error e => simp
  | ok a => simp

theorem bind_ne_error {x : Except ε α} {f : α → Except ε β} {e : ε} (hx : x ≠ .error e)
    (hf : ∀ a, f a ≠ .error e) : (x >>= f) ≠ .error e := by
  cases x with
  | error e' =>
    rw [bind_error]
    intro h
    cases h
    exact hx rfl
  | ok a => exact hf a

theorem mapM_eq_ok {f : α → Except ε β} {xs : List α} {ys : List β}
    : xs.mapM f = .ok ys ↔ List.Forall₂ (fun x y => f x = .ok y) xs ys := by
  induction xs generalizing ys with
  | nil =>
    simp only [List.mapM_nil, pure_eq_ok, Except.ok.injEq, List.forall₂_nil_left_iff]
    apply eq_comm
  | cons x xs ih =>
    simp only [List.mapM_cons, bind_eq_ok, pure_eq_ok, Except.ok.injEq,
      List.forall₂_cons_left_iff, ih]
    constructor
    . intro h
      rcases h with ⟨y, hy, ys', hys, rfl⟩
      exact ⟨y, ys', hy, hys, rfl⟩
    . intro h
      rcases h with ⟨y, ys', hy, hys, rfl⟩
      exact ⟨y, hy, ys', hys, rfl⟩

theorem mapM_mem {f : α → Except ε β} {xs : List α} {ys : List β} (h : xs.mapM f = .ok ys)
    {x : α} (hx : x ∈ xs) : ∃ y, f x = .ok y := by
  rw [mapM_eq_ok] at h
  induction h with
  | nil => cases hx
  | cons hy _ ih =>
    cases hx with
    | head => exact ⟨_, hy⟩
    | tail _ hx => exact ih hx

theorem mapM_exists {f : α → Except ε β} {xs : List α} (h : ∀ x ∈ xs, ∃ y, f x = .ok y)
    : ∃ ys, xs.mapM f = .ok ys := by
  induction xs with
  | nil => exact ⟨[], rfl⟩
  | cons x xs ih =>
    rcases h x (by simp) with ⟨y, hy⟩
    rcases ih (fun x' hx' => h x' (by simp [hx'])) with ⟨ys, hys⟩
    exact ⟨y :: ys, by simp [hy, hys]⟩

theorem mem_of_mapM {f : α → Except ε β} {xs : List α} {ys : List β} (h : xs.mapM f = .ok ys)
    {y : β} : y ∈ ys ↔ ∃ x ∈ xs, f x = .ok y := by
  rw [mapM_eq_ok] at h
  induction h with
  | nil => simp
  | cons hy _ ih =>
    simp only [List.mem_cons, ih, exists_eq_or_imp, hy, Except.ok.injEq]
    rw [eq_comm]

theorem mapM_error {f : α → Except ε β} {xs : List α} {e : ε} (h : xs.mapM f = .error e)
    : ∃ x ∈ xs, f x = .error e := by
  induction xs with
  | nil => cases h
  | cons x xs ih =>
    rw [List.mapM_cons] at h
    cases hx : f x with
    | error e' =>
      rw [hx, bind_error] at h
      cases h
      exact ⟨x, by simp, hx⟩
    | ok y =>
      rw [hx, bind_ok] at h
      cases hxs : xs.mapM f with
      | error e' =>
        rw [hxs, bind_error] at h
        cases h
        rcases ih hxs with ⟨x', hx', herror⟩
        exact ⟨x', by simp [hx'], herror⟩
      | ok ys =>
        rw [hxs, bind_ok] at h
        cases h

theorem foldlM_exists {f : α → β → Except ε α} {Good : α → Prop} {xs : List β}
    (h : ∀ x ∈ xs, ∀ s, Good s → ∃ s', f s x = .ok s' ∧ Good s') {s : α} (hs : Good s)
    : ∃ s', xs.foldlM f s = .ok s' ∧ Good s' := by
  induction xs generalizing s with
  | nil => exact ⟨s, rfl, hs⟩
  | cons x xs ih =>
    rcases h x (by simp) s hs with ⟨s₁, hs₁, hgood₁⟩
    rcases ih (fun x' hx' => h x' (by simp [hx'])) hgood₁ with ⟨s₂, hs₂, hgood₂⟩
    exact ⟨s₂, by simp [hs₁, hs₂], hgood₂⟩

theorem foldlM_preserves {f : α → β → Except ε α} {Good : α → Prop} {xs : List β}
    (h : ∀ x ∈ xs, ∀ s s', Good s → f s x = .ok s' → Good s') {s s' : α} (hs : Good s)
    (hfold : xs.foldlM f s = .ok s') : Good s' := by
  induction xs generalizing s with
  | nil =>
    rw [List.foldlM_nil, pure_eq_ok, Except.ok.injEq] at hfold
    exact hfold ▸ hs
  | cons x xs ih =>
    rw [List.foldlM_cons, bind_eq_ok] at hfold
    rcases hfold with ⟨s₁, hs₁, hfold⟩
    apply ih (fun x' hx' => h x' (by simp [hx'])) (h x (by simp) s s₁ hs hs₁) hfold

theorem foldlM_eq_error {f : α → β → Except ε α} {Good : α → Prop} {e : ε} {xs : List β}
    (h : ∀ x ∈ xs, ∀ s, Good s → (∃ s', f s x = .ok s' ∧ Good s') ∨ f s x = .error e)
    {x : β} (hx : x ∈ xs) (hfail : ∀ s, Good s → f s x = .error e) {s : α} (hs : Good s)
    : xs.foldlM f s = .error e := by
  induction xs generalizing s with
  | nil => cases hx
  | cons y xs ih =>
    rw [List.foldlM_cons]
    rcases h y (by simp) s hs with ⟨s₁, hs₁, hgood₁⟩ | herror
    . rw [hs₁, bind_ok]
      cases hx with
      | head =>
        rw [hfail s hs] at hs₁
        cases hs₁
      | tail _ hx => exact ih (fun x' hx' => h x' (by simp [hx'])) hx hgood₁
    . rw [herror, bind_error]

theorem filterAuxM_eq_ok {f : γ → Except ε Bool} {p : γ → Bool} {xs : List γ}
    (h : ∀ x ∈ xs, f x = .ok (p x)) (acc : List γ)
    : List.filterAuxM f xs acc = .ok ((xs.filter p).reverse ++ acc) := by
  induction xs generalizing acc with
  | nil => rfl
  | cons x xs ih =>
    have hx : f x = .ok (p x) := h x (by simp)
    simp only [List.filterAuxM, hx, bind_ok]
    rw [ih (fun x' hx' => h x' (by simp [hx']))]
    cases hp : p x <;> simp [hp]

theorem filterM_eq_ok {f : γ → Except ε Bool} {p : γ → Bool} {xs : List γ}
    (h : ∀ x ∈ xs, f x = .ok (p x)) : xs.filterM f = .ok (xs.filter p) := by
  simp [List.filterM, filterAuxM_eq_ok h]

theorem filterAuxM_subset {f : γ → Except ε Bool} {xs acc ys : List γ}
    (h : List.filterAuxM f xs acc = .ok ys) : ys ⊆ xs ++ acc := by
  induction xs generalizing acc with
  | nil =>
    simp only [List.filterAuxM, pure_eq_ok, Except.ok.injEq] at h
    simp [h]
  | cons x xs ih =>
    simp only [List.filterAuxM, bind_eq_ok] at h
    rcases h with ⟨keep, -, h⟩
    intro y hy
    have hmem := ih h hy
    cases keep <;> grind

theorem filterM_subset {f : γ → Except ε Bool} {xs ys : List γ} (h : xs.filterM f = .ok ys)
    : ys ⊆ xs := by
  simp only [List.filterM, bind_eq_ok, pure_eq_ok, Except.ok.injEq] at h
  rcases h with ⟨rev, hrev, rfl⟩
  intro y hy
  simpa using filterAuxM_subset hrev (List.mem_reverse.mp hy)

theorem assertThat_eq_ok {cond : Bool} {u : Unit} : assertThat cond = .ok u ↔ cond = true := by
  unfold assertThat
  cases cond <;> simp

theorem elementAt_eq_ok {elements : List α} {idx : Nat} {x : α}
    : elementAt elements idx = .ok x ↔ elements[idx]? = some x := by
  unfold elementAt
  cases elements[idx]? <;> simp

theorem elementAt_of_lt {elements : List α} {idx : Nat} (h : idx < elements.length)
    : elementAt elements idx = .ok elements[idx] := by
  rw [elementAt_eq_ok]
  apply List.getElem?_eq_getElem h

theorem elementAt_of_le {elements : List α} {idx : Nat} (h : elements.length ≤ idx)
    : elementAt elements idx = .error .outOfRange := by
  unfold elementAt
  rw [List.getElem?_eq_none h]
  rfl

theorem mapM_elementAt {S : Type} {f : Nat → Outcome S} {g : γ → S} {elements : List γ}
    (h : ∀ idx < elements.length, f idx = do return g (← elementAt elements idx))
    : (List.range elements.length).mapM f = .ok (elements.map g) := by
  rw [mapM_eq_ok, List.forall₂_iff_get]
  constructor
  . simp
  . intro idx hidx hidx'
    rw [List.length_map] at hidx'
    simp [h idx hidx', elementAt_of_lt hidx']

end Outcome
