import Sc2pp.Lemmas.Wave
import Mathlib.Algebra.Order.Ring.Int

/-!
This module contains the number of steps between two pixels of a grid when every step inside the
grid is allowed. A step along both axes goes up on both or down on both. It saves a step where the
two offsets have the same sign, otherwise every axis needs its own steps.
-/

namespace Sc2.Utils

open Search

def stepDistance (dx dy : Int) : Nat :=
  if 0 ≤ dx * dy then max dx.natAbs dy.natAbs else dx.natAbs + dy.natAbs

theorem stepDistance_eq (dx dy : Int)
    : stepDistance dx dy = max (max dx.natAbs dy.natAbs) (dx - dy).natAbs := by
  unfold stepDistance
  split
  . next h =>
    rcases mul_nonneg_iff.mp h with h | h
    . omega
    . omega
  . next h =>
    rw [mul_nonneg_iff] at h
    omega

theorem stepDistance_eq_zero_iff {dx dy : Int} : stepDistance dx dy = 0 ↔ dx = 0 ∧ dy = 0 := by
  rw [stepDistance_eq]
  omega

theorem stepDistance_le_iff {dx dy : Int} {n : Nat}
    : stepDistance dx dy ≤ n ↔ dx.natAbs ≤ n ∧ dy.natAbs ≤ n ∧ (dx - dy).natAbs ≤ n := by
  rw [stepDistance_eq]
  omega

theorem stepDistance_add_le (dx dy dx' dy' : Int)
    : stepDistance (dx + dx') (dy + dy') ≤ stepDistance dx dy + stepDistance dx' dy' := by
  have h := stepDistance_le_iff.mp (Nat.le_refl (stepDistance dx dy))
  have h' := stepDistance_le_iff.mp (Nat.le_refl (stepDistance dx' dy'))
  rw [stepDistance_le_iff]
  omega

namespace Wave

theorem stepDistance_of_mem_offsets {delta : Point2DI} (h : delta ∈ offsets)
    : stepDistance delta.x delta.y = 1 := by
  simp only [offsets, List.mem_cons, List.not_mem_nil, or_false] at h
  rcases h with rfl | rfl | rfl | rfl | rfl | rfl
  . rfl
  . rfl
  . rfl
  . rfl
  . rfl
  . rfl

theorem stepDistance_of_same_sign {dx dy : Int} (h : 0 ≤ dx ∧ 0 ≤ dy ∨ dx ≤ 0 ∧ dy ≤ 0)
    : stepDistance dx dy = max dx.natAbs dy.natAbs := by
  unfold stepDistance
  rw [if_pos (mul_nonneg_iff.mpr h)]

theorem stepDistance_of_opposite_sign {dx dy : Int} (h : 0 ≤ dx ∧ dy ≤ 0 ∨ dx ≤ 0 ∧ 0 ≤ dy)
    : stepDistance dx dy = dx.natAbs + dy.natAbs := by
  rw [stepDistance_eq]
  omega

-- The last step to an offset. It never leaves the rectangle between the offset and the origin.
theorem exists_last_step {dx dy : Int} {n : Nat} (h : stepDistance dx dy = n + 1)
    : ∃ delta ∈ offsets, stepDistance (dx - delta.x) (dy - delta.y) = n ∧
        min 0 dx ≤ dx - delta.x ∧ dx - delta.x ≤ max 0 dx ∧
        min 0 dy ≤ dy - delta.y ∧ dy - delta.y ≤ max 0 dy := by
  by_cases hsame : (0 < dx ∧ 0 < dy) ∨ (dx < 0 ∧ dy < 0)
  . rw [stepDistance_of_same_sign (by omega)] at h
    rcases hsame with ⟨hx, hy⟩ | ⟨hx, hy⟩
    . refine ⟨⟨1, 1⟩, by simp [offsets], ?_⟩
      simp only
      rw [stepDistance_of_same_sign (by omega)]
      omega
    . refine ⟨⟨-1, -1⟩, by simp [offsets], ?_⟩
      simp only
      rw [stepDistance_of_same_sign (by omega)]
      omega
  . rw [stepDistance_of_opposite_sign (by omega)] at h
    rcases Int.lt_trichotomy dx 0 with hx | hx | hx
    . refine ⟨⟨-1, 0⟩, by simp [offsets], ?_⟩
      simp only
      rw [stepDistance_of_opposite_sign (by omega)]
      omega
    . rcases Int.lt_trichotomy dy 0 with hy | hy | hy
      . refine ⟨⟨0, -1⟩, by simp [offsets], ?_⟩
        simp only
        rw [stepDistance_of_opposite_sign (by omega)]
        omega
      . omega
      . refine ⟨⟨0, 1⟩, by simp [offsets], ?_⟩
        simp only
        rw [stepDistance_of_opposite_sign (by omega)]
        omega
    . refine ⟨⟨1, 0⟩, by simp [offsets], ?_⟩
      simp only
      rw [stepDistance_of_opposite_sign (by omega)]
      omega

variable {T : Type} {g : Grid T} {center : Point2DI}

def distance (center p : Point2DI) : Nat :=
  stepDistance (p.x - center.x) (p.y - center.y)

theorem mem_neighbours {pixel v : Point2DI}
    : v ∈ neighbours g none pixel ↔ g.Inside v ∧ ∃ delta ∈ offsets, pixel.add delta = v := by
  simp only [neighbours, canStep, List.mem_filter, List.mem_map, Option.all_none, Bool.and_true,
    decide_eq_true_eq]
  exact And.comm

theorem distance_le_of_walk {n : Nat} {p : Point2DI} (h : Walk (neighbours g none) center n p)
    : distance center p ≤ n := by
  induction h with
  | refl =>
    unfold distance
    rw [stepDistance_eq]
    omega
  | @step n p q _ hq ih =>
    rcases mem_neighbours.mp hq with ⟨-, delta, hdelta, rfl⟩
    have hadd := stepDistance_add_le (p.x - center.x) (p.y - center.y) delta.x delta.y
    rw [stepDistance_of_mem_offsets hdelta] at hadd
    unfold distance at ih ⊢
    simp only [Point2DI.add_x, Point2DI.add_y, add_sub_right_comm]
    omega

theorem inside_of_walk (hcenter : g.Inside center) {n : Nat} {p : Point2DI}
    (h : Walk (neighbours g none) center n p) : g.Inside p := by
  cases h with
  | refl => exact hcenter
  | step _ hq => exact (mem_neighbours.mp hq).1

theorem walk_of_distance (hcenter : g.Inside center) {n : Nat} {p : Point2DI} (hp : g.Inside p)
    (hn : distance center p = n) : Walk (neighbours g none) center n p := by
  induction n generalizing p with
  | zero =>
    rcases stepDistance_eq_zero_iff.mp hn with ⟨hx, hy⟩
    have hpc : p = center := by
      cases p
      cases center
      simp only [Point2DI.mk.injEq] at hx hy ⊢
      omega
    rw [hpc]
    exact .refl
  | succ n ih =>
    rcases exists_last_step hn with ⟨delta, hdelta, hlast, hbounds⟩
    let q : Point2DI := ⟨p.x - delta.x, p.y - delta.y⟩
    have hq : g.Inside q := by
      unfold Grid.Inside at hcenter hp ⊢
      simp only [q]
      omega
    have hqn : distance center q = n := by
      rw [← hlast]
      unfold distance
      simp only [q]
      congr 1
      . omega
      . omega
    apply Walk.step (ih hq hqn)
    rw [mem_neighbours]
    refine ⟨hp, delta, hdelta, ?_⟩
    simp [q, Point2DI.add]

theorem wave_nearest (g : Grid T) {center : Point2DI} (hcenter : g.Inside center)
    (isGoal : Point2DI → Bool)
    : ((wave g center isGoal).isSome = true ↔ ∃ p, g.Inside p ∧ isGoal p = true) ∧
      ∀ p, wave g center isGoal = some p →
        g.Inside p ∧ isGoal p = true ∧
          ∀ q, g.Inside q → isGoal q = true →
            stepDistance (p.x - center.x) (p.y - center.y)
              ≤ stepDistance (q.x - center.x) (q.y - center.y) := by
  have hshortest := wave_shortest g center isGoal none
  constructor
  . rw [hshortest.1]
    constructor
    . intro h
      rcases h with ⟨p, n, hgoal, hwalk⟩
      exact ⟨p, inside_of_walk hcenter hwalk, hgoal⟩
    . intro h
      rcases h with ⟨p, hp, hgoal⟩
      exact ⟨p, distance center p, hgoal, walk_of_distance hcenter hp rfl⟩
  . intro p hp
    rcases hshortest.2 p hp with ⟨hgoal, n, hwalk, hleast⟩
    refine ⟨inside_of_walk hcenter hwalk, hgoal, ?_⟩
    intro q hq hqgoal
    have hle := hleast q (distance center q) hqgoal (walk_of_distance hcenter hq rfl)
    apply Nat.le_trans (distance_le_of_walk hwalk) hle

theorem wave_nearest_strip
    : ∃ p, wave strip ⟨2, 0⟩ (fun p => p.y == 1) = some p ∧ p.y = 1 ∧
        stepDistance (p.x - 2) p.y ≤ stepDistance 0 1 := by
  have hcenter : strip.Inside ⟨2, 0⟩ := by decide
  have hnearest := wave_nearest strip hcenter (fun p => p.y == 1)
  rcases Option.isSome_iff_exists.mp (hnearest.1.mpr ⟨⟨2, 1⟩, by decide, rfl⟩) with ⟨p, hp⟩
  rcases hnearest.2 p hp with ⟨-, hgoal, hleast⟩
  exact ⟨p, hp, by simpa using hgoal, by simpa using hleast ⟨2, 1⟩ (by decide) rfl⟩

end Wave

end Sc2.Utils
