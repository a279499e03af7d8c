import Mathlib.Data.List.Nodup

/-!
This module contains breadth-first search. From any point the search can go on to the points `next`
lists. A `Frontier` holds the points that wait in the queue and those that were seen, a point that is
discovered for the first time goes to the end of the queue.

The queue holds points of at most two consecutive distances from the start. `Layered` says so, and
that all points up to the first of these distances were seen. `Inv` is the invariant of a search for
a goal: it gives the distance of a goal at the head of the queue, and that there is none when the
queue is empty.

A search may also begin without having marked its start as seen. Its start can be queued twice then,
and `Flooded` only says that there is no goal when the queue is empty. `measure` bounds what is left
to do when all points that can be discovered are among `all`.
-/

namespace Search

variable {α : Type}

inductive Walk (next : α → List α) (start : α) : Nat → α → Prop where
  | refl : Walk next start 0 start
  | step {n : Nat} {x y : α} : Walk next start n x → y ∈ next x → Walk next start (n + 1) y

structure Distance (next : α → List α) (start : α) (n : Nat) (x : α) : Prop where
  walk : Walk next start n x
  least : ∀ m, Walk next start m x → n ≤ m

structure Frontier (α : Type) where
  queue : List α
  seen : List α

structure Layered (next : α → List α) (start : α) (goal : α → Prop) (d : Nat) (near far : List α)
    (f : Frontier α) : Prop where
  queue : f.queue = near ++ far
  near : ∀ x ∈ near, Distance next start d x
  far : ∀ x ∈ far, Distance next start (d + 1) x
  closer : ∀ n x, Walk next start n x → n ≤ d → x ∈ f.seen
  done : ∀ x ∈ f.seen, x ∈ f.queue ∨ (¬ goal x ∧ ∀ y ∈ next x, y ∈ f.seen)

variable {next : α → List α} {start : α} {goal : α → Prop} {d : Nat} {near far : List α}
  {f : Frontier α}

theorem layered_start : Layered next start goal 0 [start] [] ⟨[start], [start]⟩ where
  queue := by simp
  near := by
    intro x hx
    rw [List.mem_singleton] at hx
    subst hx
    exact ⟨.refl, fun _ _ => Nat.zero_le _⟩
  far := by simp
  closer := by
    intro n x h hn
    cases h with
    | refl => simp
    | step _ _ => omega
  done := by
    intro x hx
    exact .inl hx

theorem Layered.relayer (h : Layered next start goal d [] far f)
    : Layered next start goal (d + 1) far [] f where
  queue := by
    rw [h.queue]
    simp
  near := h.far
  far := by simp
  closer := by
    intro n y hwalk hn
    by_cases hlt : n ≤ d
    . apply h.closer n y hwalk hlt
    . cases hwalk with
      | refl => omega
      | @step n x _ hx hy =>
        rcases h.done x (h.closer n x hx (by omega)) with hqueue | ⟨-, hclosed⟩
        . rw [h.queue, List.nil_append] at hqueue
          have hle := (h.far x hqueue).least n hx
          omega
        . apply hclosed y hy
  done := h.done

def Inv (next : α → List α) (start : α) (goal : α → Prop) (f : Frontier α) : Prop :=
  ∃ d near far, Layered next start goal d near far f

theorem inv_start : Inv next start goal ⟨[start], [start]⟩ := by
  exact ⟨0, [start], [], layered_start⟩

theorem Inv.head {x : α} {rest : List α} (h : Inv next start goal f) (hqueue : f.queue = x :: rest)
    : ∃ d near far, rest = near ++ far ∧ Layered next start goal d (x :: near) far f := by
  rcases h with ⟨d, near, far, h⟩
  have hsplit := h.queue
  rw [hqueue] at hsplit
  cases near with
  | nil =>
    rw [List.nil_append] at hsplit
    subst hsplit
    exact ⟨d + 1, rest, [], by simp, h.relayer⟩
  | cons y near =>
    rw [List.cons_append, List.cons.injEq] at hsplit
    rcases hsplit with ⟨rfl, rfl⟩
    exact ⟨d, near, far, rfl, h⟩

theorem Inv.found {x : α} {rest : List α} (h : Inv next start goal f)
    (hqueue : f.queue = x :: rest)
    : ∃ n, Walk next start n x ∧ ∀ y m, goal y → Walk next start m y → n ≤ m := by
  rcases h.head hqueue with ⟨d, near, far, rfl, hlayered⟩
  refine ⟨d, (hlayered.near x List.mem_cons_self).walk, ?_⟩
  intro y m hy hwalk
  by_contra hlt
  rcases hlayered.done y (hlayered.closer m y hwalk (by omega)) with hmem | ⟨hnot, -⟩
  . rw [hlayered.queue, List.mem_append] at hmem
    rcases hmem with hmem | hmem
    . have hle := (hlayered.near y hmem).least m hwalk
      omega
    . have hle := (hlayered.far y hmem).least m hwalk
      omega
  . apply hnot hy

theorem Inv.exhausted (h : Inv next start goal f) (hqueue : f.queue = []) {n : Nat} {x : α}
    (hwalk : Walk next start n x) : ¬ goal x := by
  rcases h with ⟨d, near, far, h⟩
  have hdone : ∀ y ∈ f.seen, ¬ goal y ∧ ∀ z ∈ next y, z ∈ f.seen := by
    intro y hy
    rcases h.done y hy with hmem | hdone
    . rw [hqueue] at hmem
      cases hmem
    . exact hdone
  have hseen : x ∈ f.seen := by
    induction hwalk with
    | refl => exact h.closer 0 start .refl (Nat.zero_le d)
    | step _ hy ih => exact (hdone _ ih).2 _ hy
  exact (hdone x hseen).1

structure Flooded (next : α → List α) (start : α) (goal : α → Prop) (f : Frontier α) : Prop where
  reached : ∀ x ∈ f.queue, ∃ n, Walk next start n x
  done : ∀ x, x = start ∨ x ∈ f.seen → x ∈ f.queue ∨ (¬ goal x ∧ ∀ y ∈ next x, y ∈ f.seen)

theorem flooded_start : Flooded next start goal ⟨[start], []⟩ where
  reached := by
    intro x hx
    rw [List.mem_singleton] at hx
    subst hx
    exact ⟨0, .refl⟩
  done := by
    intro x hx
    simp only [List.not_mem_nil, or_false] at hx
    simp [hx]

theorem Flooded.exhausted (h : Flooded next start goal f) (hqueue : f.queue = []) {n : Nat} {x : α}
    (hwalk : Walk next start n x) : ¬ goal x := by
  have hdone : ∀ y, y = start ∨ y ∈ f.seen → ¬ goal y ∧ ∀ z ∈ next y, z ∈ f.seen := by
    intro y hy
    rcases h.done y hy with hmem | hdone
    . rw [hqueue] at hmem
      cases hmem
    . exact hdone
  have hfound : x = start ∨ x ∈ f.seen := by
    induction hwalk with
    | refl => exact .inl rfl
    | step _ hy ih => exact .inr ((hdone _ ih).2 _ hy)
  exact (hdone x hfound).1

section

variable [DecidableEq α]

def Frontier.discover (f : Frontier α) (x : α) : Frontier α :=
  if x ∈ f.seen then f else { queue := f.queue ++ [x], seen := x :: f.seen }

structure Discovered (f : Frontier α) (xs news : List α) (f' : Frontier α) : Prop where
  queue : f'.queue = f.queue ++ news
  seen : ∀ x, x ∈ f'.seen ↔ x ∈ f.seen ∨ x ∈ xs
  news : ∀ x, x ∈ news ↔ x ∈ xs ∧ x ∉ f.seen

theorem discovered_foldl (xs : List α) (f : Frontier α)
    : ∃ news, Discovered f xs news (xs.foldl Frontier.discover f) := by
  induction xs generalizing f with
  | nil => exact ⟨[], ⟨by simp, by simp, by simp⟩⟩
  | cons x xs ih =>
    rcases ih (f.discover x) with ⟨news, h⟩
    rw [List.foldl_cons]
    unfold Frontier.discover at h ⊢
    split at h
    . next hx =>
      rw [if_pos hx]
      refine ⟨news, ⟨h.queue, ?_, ?_⟩⟩
      . intro y
        rw [h.seen, List.mem_cons]
        grind
      . intro y
        rw [h.news, List.mem_cons]
        grind
    . next hx =>
      rw [if_neg hx]
      refine ⟨x :: news, ⟨?_, ?_, ?_⟩⟩
      . rw [h.queue]
        simp
      . intro y
        rw [h.seen]
        grind
      . intro y
        rw [List.mem_cons, h.news]
        grind

theorem Layered.advance {x : α} (h : Layered next start goal d (x :: near) far f)
    (hgoal : ¬ goal x)
    : ∃ far', Layered next start goal d near far'
        ((next x).foldl Frontier.discover { f with queue := near ++ far }) := by
  rcases discovered_foldl (next x) { f with queue := near ++ far } with ⟨news, hnews⟩
  refine ⟨far ++ news, ⟨?_, ?_, ?_, ?_, ?_⟩⟩
  . rw [hnews.queue, List.append_assoc]
  . intro y hy
    apply h.near y (List.mem_cons_of_mem x hy)
  . intro y hy
    rcases List.mem_append.mp hy with hy | hy
    . apply h.far y hy
    . rcases (hnews.news y).mp hy with ⟨hnext, hunseen⟩
      refine ⟨.step (h.near x List.mem_cons_self).walk hnext, ?_⟩
      intro m hm
      by_contra hlt
      exact hunseen (h.closer m y hm (by omega))
  . intro n y hwalk hn
    rw [hnews.seen]
    exact .inl (h.closer n y hwalk hn)
  . intro y hy
    by_cases hold : y ∈ f.seen
    . rcases h.done y hold with hqueue | ⟨hy', hclosed⟩
      . rw [h.queue, List.cons_append, List.mem_cons] at hqueue
        rcases hqueue with rfl | hqueue
        . exact .inr ⟨hgoal, fun z hz => (hnews.seen z).mpr (.inr hz)⟩
        . rw [hnews.queue]
          exact .inl (List.mem_append_left news hqueue)
      . exact .inr ⟨hy', fun z hz => (hnews.seen z).mpr (.inl (hclosed z hz))⟩
    . have hnext := ((hnews.seen y).mp hy).resolve_left hold
      rw [hnews.queue]
      exact .inl (List.mem_append_right _ ((hnews.news y).mpr ⟨hnext, hold⟩))

theorem Inv.advance {x : α} {rest : List α} (h : Inv next start goal f)
    (hqueue : f.queue = x :: rest) (hgoal : ¬ goal x)
    : Inv next start goal ((next x).foldl Frontier.discover { f with queue := rest }) := by
  rcases h.head hqueue with ⟨d, near, far, rfl, hlayered⟩
  rcases hlayered.advance hgoal with ⟨far', hadvanced⟩
  exact ⟨d, near, far', hadvanced⟩

theorem Flooded.advance {x : α} {rest : List α} (h : Flooded next start goal f)
    (hqueue : f.queue = x :: rest) (hgoal : ¬ goal x)
    : Flooded next start goal ((next x).foldl Frontier.discover { f with queue := rest }) := by
  rcases discovered_foldl (next x) { f with queue := rest } with ⟨news, hnews⟩
  rcases h.reached x (by simp [hqueue]) with ⟨n, hwalk⟩
  constructor
  . intro y hy
    rw [hnews.queue, List.mem_append] at hy
    rcases hy with hy | hy
    . apply h.reached y
      simp [hqueue, hy]
    . exact ⟨n + 1, hwalk.step ((hnews.news y).mp hy).1⟩
  . intro y hy
    by_cases hold : y = start ∨ y ∈ f.seen
    . rcases h.done y hold with hmem | ⟨hy', hclosed⟩
      . rw [hqueue, List.mem_cons] at hmem
        rcases hmem with rfl | hmem
        . exact .inr ⟨hgoal, fun z hz => (hnews.seen z).mpr (.inr hz)⟩
        . rw [hnews.queue]
          exact .inl (List.mem_append_left news hmem)
      . exact .inr ⟨hy', fun z hz => (hnews.seen z).mpr (.inl (hclosed z hz))⟩
    . rw [not_or] at hold
      have hseen := hy.resolve_left hold.1
      have hnext := ((hnews.seen y).mp hseen).resolve_left hold.2
      rw [hnews.queue]
      exact .inl (List.mem_append_right _ ((hnews.news y).mpr ⟨hnext, hold.2⟩))

def Frontier.measure (all : List α) (f : Frontier α) : Nat :=
  f.queue.length + (all.filter (· ∉ f.seen)).length

theorem Frontier.measure_discover {all : List α} {x : α} (hx : x ∈ all) (f : Frontier α)
    : (f.discover x).measure all ≤ f.measure all := by
  unfold discover
  split
  . exact Nat.le_refl _
  . next hseen =>
    let unseen := all.filter (· ∉ f.seen)
    have hrest : all.filter (· ∉ x :: f.seen) = unseen.filter (· ≠ x) := by
      rw [List.filter_filter]
      simp
    have hlt : (unseen.filter (· ≠ x)).length < unseen.length := by
      rw [List.length_filter_lt_length_iff_exists]
      exact ⟨x, by simp [unseen, hx, hseen], by simp⟩
    simp only [measure, hrest, List.length_append, List.length_singleton]
    change f.queue.length + 1 + (unseen.filter (· ≠ x)).length ≤ f.queue.length + unseen.length
    omega

theorem Frontier.measure_foldl_discover {all xs : List α} (h : ∀ x ∈ xs, x ∈ all) (f : Frontier α)
    : (xs.foldl discover f).measure all ≤ f.measure all := by
  induction xs generalizing f with
  | nil => exact Nat.le_refl _
  | cons x xs ih =>
    have hrest := ih (fun y hy => h y (List.mem_cons_of_mem x hy)) (f.discover x)
    have hx := f.measure_discover (h x List.mem_cons_self)
    rw [List.foldl_cons]
    omega

theorem Frontier.measure_advance {all xs : List α} (h : ∀ x ∈ xs, x ∈ all) {f : Frontier α} {x : α}
    {rest : List α} (hqueue : f.queue = x :: rest)
    : (xs.foldl discover { f with queue := rest }).measure all + 1 ≤ f.measure all := by
  have hle := Frontier.measure_foldl_discover h { f with queue := rest }
  have hpop : Frontier.measure all { f with queue := rest } + 1 = f.measure all := by
    simp only [Frontier.measure, hqueue, List.length_cons]
    omega
  omega

end

end Search
