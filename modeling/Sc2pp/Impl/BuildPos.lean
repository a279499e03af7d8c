import Sc2pp.Impl.GridUtils
import Sc2pp.Impl.UnitQuery
import Sc2pp.Impl.Wave
import Sc2pp.Util.Search

/-!
This module contains the search for a position near a point at which a building can be placed. It
goes over the tiles of a disc and asks for each whether the building can be placed there. Its answers
come from `placement`, in whatever monad the agent's queries run.

`box` contains all tiles of the disc. Nothing but the variant of the search uses it.
-/

namespace Sc2

open Utils

def Point2DI.toPoint2D (p : Point2DI) : Point2D :=
  ⟨p.x, p.y⟩

namespace BuildPos

def tooFar (center : Point2D) (radius : Rat) (v : Point2DI) : Bool :=
  (radius + 3) * (radius + 3) < distSquared v.toPoint2D center

def box (center : Point2D) (radius : Rat) : List Point2DI :=
  let reach := |radius + 3|.ceil + 1
  (pixels (2 * reach + 1) (2 * reach + 1)).map fun p =>
    ⟨center.x.floor - reach + p.x, center.y.floor - reach + p.y⟩

theorem floor_bounds {c d : Rat} {z : Int} (h : |(z : Rat) - c| ≤ d)
    : c.floor - d.ceil ≤ z ∧ z ≤ c.floor + d.ceil := by
  have hceil : d ≤ (d.ceil : Rat) := Rat.le_ceil
  have hfloor := Rat.floor_le c
  have hfloor' := Rat.lt_floor_add_one c
  have habs := abs_le.mp h
  push_cast at hfloor'
  constructor
  . have hle : (c.floor : Rat) - d.ceil ≤ z := by linarith
    exact_mod_cast hle
  . have hlt : (z : Rat) < c.floor + d.ceil + 1 := by linarith
    have hlt' : z < c.floor + d.ceil + 1 := by exact_mod_cast hlt
    omega

theorem abs_le_of_not_tooFar {center : Point2D} {radius : Rat} {v : Point2DI}
    (h : tooFar center radius v = false)
    : |(v.x : Rat) - center.x| ≤ |radius + 3| ∧ |(v.y : Rat) - center.y| ≤ |radius + 3| := by
  have hle := not_lt.mp (of_decide_eq_false h)
  simp only [distSquared, dot, Point2D.sub, Point2DI.toPoint2D] at hle
  rw [← sq_le_sq, ← sq_le_sq]
  constructor
  . nlinarith [mul_self_nonneg ((v.y : Rat) - center.y)]
  . nlinarith [mul_self_nonneg ((v.x : Rat) - center.x)]

theorem mem_box {center : Point2D} {radius : Rat} {v : Point2DI}
    (h : tooFar center radius v = false) : v ∈ box center radius := by
  rcases abs_le_of_not_tooFar h with ⟨hx, hy⟩
  have hxs := floor_bounds hx
  have hys := floor_bounds hy
  unfold box
  rw [List.mem_map]
  refine ⟨⟨v.x - (center.x.floor - (|radius + 3|.ceil + 1)),
    v.y - (center.y.floor - (|radius + 3|.ceil + 1))⟩, ?_, ?_⟩
  . rw [mem_pixels]
    simp only
    omega
  . cases v
    simp only [Point2DI.mk.injEq]
    omega

def start (center : Point2D) : Search.Frontier Point2DI where
  queue := [tilePos center]
  -- The first tile is not marked, the search may come back to it.
  seen := []

def visit (center : Point2D) (radius : Rat) (f : Search.Frontier Point2DI) (v : Point2DI)
    : Search.Frontier Point2DI :=
  if tooFar center radius v then f else f.discover v

def next (center : Point2D) (radius : Rat) (f : Search.Frontier Point2DI) (possible : Bool)
    : Point2DI ⊕ Search.Frontier Point2DI :=
  match f.queue with
  | [] => .inr f
  | pixel :: fringe =>
    if possible then
      .inl pixel
    else
      .inr ((Wave.variants pixel).foldl (visit center radius) { f with queue := fringe })

theorem foldl_visit (center : Point2D) (radius : Rat) (vs : List Point2DI)
    (f : Search.Frontier Point2DI)
    : vs.foldl (visit center radius) f
        =
      (vs.filter (fun v => !tooFar center radius v)).foldl Search.Frontier.discover f := by
  rw [List.foldl_filter]
  congr 1
  funext f v
  unfold visit
  cases tooFar center radius v <;> rfl

theorem measure_foldl_visit (center : Point2D) (radius : Rat) (vs : List Point2DI)
    (f : Search.Frontier Point2DI)
    : (vs.foldl (visit center radius) f).measure (box center radius)
        ≤ f.measure (box center radius) := by
  rw [foldl_visit]
  apply Search.Frontier.measure_foldl_discover
  intro v hv
  rw [List.mem_filter] at hv
  apply mem_box
  simpa using hv.2

theorem measure_pos (center : Point2D) (radius : Rat) (f : Search.Frontier Point2DI)
    (h : (!f.queue.isEmpty) = true) : 0 < f.measure (box center radius) := by
  unfold Search.Frontier.measure
  cases hqueue : f.queue with
  | nil => simp [hqueue] at h
  | cons pixel fringe => simp

theorem measure_next_lt (center : Point2D) (radius : Rat) (f : Search.Frontier Point2DI)
    (possible : Bool) (f' : Search.Frontier Point2DI) (h : (!f.queue.isEmpty) = true)
    (hnext : next center radius f possible = .inr f')
    : f'.measure (box center radius) < f.measure (box center radius) := by
  unfold next at hnext
  cases hqueue : f.queue with
  | nil => simp [hqueue] at h
  | cons pixel fringe =>
    simp only [hqueue] at hnext
    split at hnext
    . cases hnext
    . rw [Sum.inr.injEq] at hnext
      subst hnext
      have hle := measure_foldl_visit center radius (Wave.variants pixel) { f with queue := fringe }
      have hpop : Search.Frontier.measure (box center radius) { f with queue := fringe } + 1
          = f.measure (box center radius) := by
        simp only [Search.Frontier.measure, hqueue, List.length_cons]
        omega
      omega

def inquiry (center : Point2D) (radius : Rat)
    : Inquiry (Search.Frontier Point2DI) Bool Point2DI where
  cond f := !f.queue.isEmpty
  next := next center radius
  variant f := f.measure (box center radius)
  variant_pos := measure_pos center radius
  variant_lt := measure_next_lt center radius

def ask {m : Type → Type} [Monad m] (placement : AbilityId → Point2D → m Bool)
    (building : AbilityId) (f : Search.Frontier Point2DI) : m Bool :=
  match f.queue with
  | [] => pure false
  | pixel :: _ => placement building pixel.toPoint2D

end BuildPos

def findBuildposNear {m : Type → Type} [Monad m] (placement : AbilityId → Point2D → m Bool)
    (center : Point2D) (radius : Rat) (building : AbilityId) : m (Option Point2D) := do
  match ← (BuildPos.inquiry center radius).run (BuildPos.ask placement building)
      (BuildPos.start center) with
  | .inl pixel => return some pixel.toPoint2D
  | .inr _ => return none

end Sc2
