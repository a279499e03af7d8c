import Sc2pp.Util.Loop
import Sc2pp.Util.Search

/-!
This module contains searches whose answers only say when to stop. An inquiry that is `Straight` goes
through the same states whatever it is told, so it looks for the first of its `visits` that is granted.

The `sweep` of a frontier lists the points in the order a breadth-first search takes them from the
queue. A `Tidy` frontier lists each of them once. With enough fuel all points are in it that can be
reached, also those that are only found on the way and the start if it was not marked.
-/

namespace Inquiry

variable {σ β : Type}

structure Straight (inquiry : Inquiry σ Bool β) (offer : σ → β) (step : σ → σ) : Prop where
  granted : ∀ s, inquiry.cond s = true → inquiry.next s true = .inl (offer s)
  denied : ∀ s, inquiry.cond s = true → inquiry.next s false = .inr (step s)

def visits (inquiry : Inquiry σ Bool β) (step : σ → σ) : Nat → σ → List σ
  | 0, _ => []
  | n + 1, s => if inquiry.cond s then s :: visits inquiry step n (step s) else []

variable {inquiry : Inquiry σ Bool β} {offer : σ → β} {step : σ → σ}

theorem Straight.runFor_eq (h : inquiry.Straight offer step) {m : Type → Type} [Monad m]
    [LawfulMonad m] (ask : σ → m Bool) (n : Nat) (s : σ)
    : Sum.getLeft? <$> inquiry.runFor ask n s
        =
      Option.map offer <$> (inquiry.visits step n s).findM? ask := by
  induction n generalizing s with
  | zero => simp [runFor, visits, List.findM?]
  | succ n ih =>
    unfold runFor visits
    split
    . next hcond =>
      rw [List.findM?, map_bind, map_bind]
      congr 1
      funext possible
      cases possible with
      | true => simp [h.granted s hcond]
      | false =>
        simp only [h.denied s hcond]
        exact ih (step s)
    . simp [List.findM?]

end Inquiry

namespace Search

variable {α : Type} [DecidableEq α] {next : α → List α}

def sweep (next : α → List α) : Nat → Frontier α → List α
  | 0, _ => []
  | n + 1, f =>
    match f.queue with
    | [] => []
    | x :: rest => x :: sweep next n ((next x).foldl Frontier.discover { f with queue := rest })

structure Tidy (f : Frontier α) : Prop where
  nodup : f.queue.Nodup
  seen : ∀ x ∈ f.queue, x ∈ f.seen

theorem Tidy.discover {f : Frontier α} (h : Tidy f) (x : α) : Tidy (f.discover x) := by
  unfold Frontier.discover
  split
  . exact h
  . next hx =>
    constructor
    . rw [List.nodup_append]
      refine ⟨h.nodup, List.nodup_singleton x, ?_⟩
      intro y hy z hz
      rw [List.mem_singleton] at hz
      subst hz
      intro heq
      subst heq
      exact hx (h.seen y hy)
    . intro y hy
      rcases List.mem_append.mp hy with hy | hy
      . exact List.mem_cons_of_mem x (h.seen y hy)
      . rw [List.mem_singleton] at hy
        subst hy
        exact List.mem_cons_self

theorem Tidy.foldl_discover {f : Frontier α} (h : Tidy f) (xs : List α)
    : Tidy (xs.foldl Frontier.discover f) := by
  induction xs generalizing f with
  | nil => exact h
  | cons x xs ih => exact ih (h.discover x)

omit [DecidableEq α] in
theorem Tidy.pop {f : Frontier α} {x : α} {rest : List α} (h : Tidy f) (hqueue : f.queue = x :: rest)
    : Tidy { f with queue := rest } := by
  have hnodup := h.nodup
  rw [hqueue, List.nodup_cons] at hnodup
  refine ⟨hnodup.2, ?_⟩
  intro y hy
  apply h.seen
  rw [hqueue]
  exact List.mem_cons_of_mem x hy

theorem mem_sweep {n : Nat} {f : Frontier α} {x : α} (h : x ∈ sweep next n f)
    : x ∈ f.queue ∨ x ∉ f.seen := by
  induction n generalizing f with
  | zero => cases h
  | succ n ih =>
    unfold sweep at h
    split at h
    . cases h
    . next y rest hqueue =>
      rw [List.mem_cons] at h
      rcases h with rfl | h
      . exact .inl (by simp [hqueue])
      . rcases discovered_foldl (next y) { f with queue := rest } with ⟨news, hnews⟩
        rcases ih h with hx | hx
        . rw [hnews.queue, List.mem_append] at hx
          rcases hx with hx | hx
          . exact .inl (by simp [hqueue, hx])
          . exact .inr ((hnews.news x).mp hx).2
        . refine .inr fun hseen => hx ?_
          exact (hnews.seen x).mpr (.inl hseen)

theorem Tidy.nodup_sweep {f : Frontier α} (h : Tidy f) (n : Nat) : (sweep next n f).Nodup := by
  induction n generalizing f with
  | zero => exact List.nodup_nil
  | succ n ih =>
    unfold sweep
    split
    . exact List.nodup_nil
    . next x rest hqueue =>
      have hnodup := h.nodup
      rw [hqueue, List.nodup_cons] at hnodup
      have hx : x ∈ f.seen := h.seen x (by simp [hqueue])
      rcases discovered_foldl (next x) { f with queue := rest } with ⟨news, hnews⟩
      rw [List.nodup_cons]
      refine ⟨?_, ih ((h.pop hqueue).foldl_discover (next x))⟩
      intro hmem
      rcases mem_sweep hmem with hmem | hmem
      . rw [hnews.queue, List.mem_append] at hmem
        rcases hmem with hmem | hmem
        . exact hnodup.1 hmem
        . exact ((hnews.news x).mp hmem).2 hx
      . exact hmem ((hnews.seen x).mpr (.inl hx))

theorem length_sweep_le (n : Nat) (f : Frontier α) : (sweep next n f).length ≤ n := by
  induction n generalizing f with
  | zero => exact Nat.le_refl _
  | succ n ih =>
    unfold sweep
    split
    . exact Nat.zero_le _
    . exact Nat.succ_le_succ (ih _)

variable {start : α} {goal : α → Prop}

theorem Flooded.walk_of_mem_sweep {n : Nat} {f : Frontier α} (h : Flooded next start goal f)
    {x : α} (hx : x ∈ sweep next n f) (hgoal : ∀ y ∈ sweep next n f, ¬ goal y)
    : ∃ m, Walk next start m x := by
  induction n generalizing f with
  | zero => cases hx
  | succ n ih =>
    unfold sweep at hx hgoal
    split at hx
    . cases hx
    . next y rest hqueue =>
      rw [hqueue, List.forall_mem_cons] at hgoal
      rw [List.mem_cons] at hx
      rcases hx with rfl | hx
      . apply h.reached
        simp [hqueue]
      . apply ih (h.advance hqueue hgoal.1) hx hgoal.2

theorem Flooded.mem_of_walk {all : List α} (hall : ∀ x, ∀ y ∈ next x, y ∈ all) {n : Nat}
    {f : Frontier α} (h : Flooded next start goal f) (hfuel : f.measure all ≤ n)
    (hgoal : ∀ x ∈ sweep next n f, ¬ goal x) {m : Nat} {x : α} (hwalk : Walk next start m x)
    : ¬ goal x := by
  induction n generalizing f with
  | zero =>
    have hqueue : f.queue = [] := by
      unfold Frontier.measure at hfuel
      apply List.eq_nil_of_length_eq_zero
      omega
    exact h.exhausted hqueue hwalk
  | succ n ih =>
    unfold sweep at hgoal
    cases hqueue : f.queue with
    | nil => exact h.exhausted hqueue hwalk
    | cons y rest =>
      simp only [hqueue] at hgoal
      rw [List.forall_mem_cons] at hgoal
      apply ih (h.advance hqueue hgoal.1) _ hgoal.2
      have hle := Frontier.measure_advance (hall y) hqueue
      omega

theorem mem_sweep_of_queue {all : List α} (hall : ∀ x, ∀ y ∈ next x, y ∈ all) {n : Nat}
    {f : Frontier α} (hfuel : f.measure all ≤ n) {x : α} (hx : x ∈ f.queue)
    : x ∈ sweep next n f := by
  induction n generalizing f with
  | zero =>
    unfold Frontier.measure at hfuel
    have hpos := List.length_pos_of_mem hx
    omega
  | succ n ih =>
    unfold sweep
    cases hqueue : f.queue with
    | nil =>
      rw [hqueue] at hx
      cases hx
    | cons y rest =>
      have hle := Frontier.measure_advance (hall y) hqueue
      rcases discovered_foldl (next y) { f with queue := rest } with ⟨news, hnews⟩
      simp only
      rw [hqueue] at hx
      rcases List.mem_cons.mp hx with rfl | hx
      . exact List.mem_cons_self
      . apply List.mem_cons_of_mem
        apply ih (by omega)
        rw [hnews.queue]
        exact List.mem_append_left news hx

theorem mem_sweep_of_next {all : List α} (hall : ∀ x, ∀ y ∈ next x, y ∈ all) {n : Nat}
    {f : Frontier α} (hfuel : f.measure all ≤ n) {x z : α} (hx : x ∈ sweep next n f)
    (hz : z ∈ next x) (hunseen : z ∉ f.seen) : z ∈ sweep next n f := by
  induction n generalizing f with
  | zero => cases hx
  | succ n ih =>
    unfold sweep at hx ⊢
    cases hqueue : f.queue with
    | nil =>
      simp only [hqueue] at hx
      cases hx
    | cons y rest =>
      have hle := Frontier.measure_advance (hall y) hqueue
      rcases discovered_foldl (next y) { f with queue := rest } with ⟨news, hnews⟩
      simp only [hqueue] at hx
      simp only
      apply List.mem_cons_of_mem
      have hnew : z ∈ next y →
          z ∈ sweep next n ((next y).foldl Frontier.discover { f with queue := rest }) := by
        intro hznext
        apply mem_sweep_of_queue hall (by omega)
        rw [hnews.queue]
        exact List.mem_append_right _ ((hnews.news z).mpr ⟨hznext, hunseen⟩)
      rcases List.mem_cons.mp hx with rfl | hx
      . exact hnew hz
      . by_cases hznext : z ∈ next y
        . exact hnew hznext
        . apply ih (by omega) hx
          intro hseen
          rcases (hnews.seen z).mp hseen with hseen | hseen
          . exact hunseen hseen
          . exact hznext hseen

end Search
