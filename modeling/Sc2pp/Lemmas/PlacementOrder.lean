import Sc2pp.Lemmas.BuildPos
import Sc2pp.Util.Sweep

/-!
This module contains the order in which the search for a building position asks for the tiles of the
disc. It does not depend on the answers, whoever gives them and whether they agree with each other or
not. The search does not mark the tile it starts with, so this tile is the only one that comes twice.
-/

namespace Sc2

open Utils Search

namespace BuildPos

variable {center : Point2D} {radius : Rat}

def tiles (center : Point2D) (radius : Rat) : List Point2DI :=
  sweep (neighbours center radius) ((start center).measure (box center radius)) (start center)

def pop (center : Point2D) (f : Frontier Point2DI) : Point2DI :=
  f.queue.headD (tilePos center)

def deny (center : Point2D) (radius : Rat) (f : Frontier Point2DI) : Frontier Point2DI :=
  (neighbours center radius (pop center f)).foldl Frontier.discover { f with queue := f.queue.tail }

theorem inquiry_straight
    : (inquiry center radius).Straight (pop center) (deny center radius) := by
  constructor
  . intro f hcond
    cases hqueue : f.queue with
    | nil => simp [inquiry, hqueue] at hcond
    | cons pixel fringe => simp [inquiry, next, pop, hqueue]
  . intro f hcond
    cases hqueue : f.queue with
    | nil => simp [inquiry, hqueue] at hcond
    | cons pixel fringe => simp [inquiry, next, deny, pop, hqueue, foldl_visit, neighbours]

theorem findM?_visits {m : Type → Type} [Monad m] [LawfulMonad m]
    (placement : AbilityId → Point2D → m Bool) (building : AbilityId) (n : Nat)
    (f : Frontier Point2DI)
    : Option.map (pop center)
          <$> ((inquiry center radius).visits (deny center radius) n f).findM? (ask placement building)
        =
      (sweep (neighbours center radius) n f).findM? fun tile =>
        placement building tile.toPoint2D := by
  induction n generalizing f with
  | zero => simp [Inquiry.visits, sweep, List.findM?]
  | succ n ih =>
    unfold Inquiry.visits sweep
    cases hqueue : f.queue with
    | nil => simp [inquiry, hqueue, List.findM?]
    | cons pixel fringe =>
      have hask : ask placement building f = placement building pixel.toPoint2D := by
        simp [ask, hqueue]
      simp only [inquiry, hqueue, List.isEmpty_cons, Bool.not_false, if_true]
      rw [List.findM?, List.findM?, map_bind, hask]
      congr 1
      funext possible
      cases possible with
      | true => simp [pop, hqueue]
      | false =>
        have hdeny : deny center radius f
            = (neighbours center radius pixel).foldl Frontier.discover
              { f with queue := fringe } := by
          simp [deny, pop, hqueue]
        simp only
        rw [← hdeny]
        exact ih (deny center radius f)

theorem findBuildposNear_eq_findM? {m : Type → Type} [Monad m] [LawfulMonad m]
    (placement : AbilityId → Point2D → m Bool) (building : AbilityId)
    : findBuildposNear placement center radius building
        =
      Option.map Point2DI.toPoint2D <$> (tiles center radius).findM? fun tile =>
        placement building tile.toPoint2D := by
  have hrun := (@inquiry_straight center radius).runFor_eq (ask placement building)
    ((start center).measure (box center radius)) (start center)
  unfold tiles
  rw [← findM?_visits, ← hrun]
  unfold findBuildposNear Inquiry.run
  simp only [map_eq_pure_bind, bind_assoc, pure_bind]
  congr 1
  funext result
  cases result <;> rfl

theorem neighbours_box (tile : Point2DI)
    : ∀ v ∈ neighbours center radius tile, v ∈ box center radius := by
  intro v hv
  apply mem_box
  simpa using (List.mem_filter.mp hv).2

theorem mem_tiles_iff (hradius : 0 ≤ radius) {tile : Point2DI}
    : tile ∈ tiles center radius ↔ tooFar center radius tile = false := by
  constructor
  . intro h
    have hflooded : Flooded (neighbours center radius) (tilePos center) (fun _ => False)
        (start center) := flooded_start
    rcases hflooded.walk_of_mem_sweep h (fun _ _ => not_false) with ⟨n, hwalk⟩
    exact not_tooFar_of_walk hradius hwalk
  . intro h
    have hflooded : Flooded (neighbours center radius) (tilePos center)
        (· ∉ tiles center radius) (start center) := flooded_start
    rcases walk_of_not_tooFar hradius h with ⟨n, hwalk⟩
    have hmem := hflooded.mem_of_walk neighbours_box (Nat.le_refl _) (fun _ h => not_not.mpr h) hwalk
    exact not_not.mp hmem

def opened (center : Point2D) (radius : Rat) : Frontier Point2DI :=
  (neighbours center radius (tilePos center)).foldl Frontier.discover { queue := [], seen := [] }

def laterTiles (center : Point2D) (radius : Rat) : List Point2DI :=
  sweep (neighbours center radius) (box center radius).length (opened center radius)

theorem measure_start
    : (start center).measure (box center radius) = (box center radius).length + 1 := by
  simp [Frontier.measure, start, Nat.add_comm]

theorem tiles_eq_cons (center : Point2D) (radius : Rat)
    : tiles center radius = tilePos center :: laterTiles center radius := by
  unfold tiles
  rw [measure_start]
  rfl

theorem nodup_laterTiles (center : Point2D) (radius : Rat) : (laterTiles center radius).Nodup := by
  have htidy : Tidy { queue := [], seen := [] : Frontier Point2DI } := ⟨List.nodup_nil, by simp⟩
  exact (htidy.foldl_discover _).nodup_sweep _

def east (tile : Point2DI) : Point2DI :=
  ⟨tile.x + 1, tile.y⟩

theorem east_mem_neighbours (hradius : 0 ≤ radius)
    : east (tilePos center) ∈ neighbours center radius (tilePos center) := by
  rcases tilePos_bounds center with ⟨⟨hx, hx'⟩, ⟨hy, hy'⟩⟩
  unfold neighbours
  rw [List.mem_filter, Bool.not_eq_true', tooFar_eq_false_iff]
  refine ⟨by simp [Wave.variants, east], ?_⟩
  simp only [east, Int.cast_add, Int.cast_one]
  nlinarith

theorem tilePos_mem_neighbours (hradius : 0 ≤ radius)
    : tilePos center ∈ neighbours center radius (east (tilePos center)) := by
  unfold neighbours
  rw [List.mem_filter, not_tooFar_tilePos hradius]
  exact ⟨by simp [Wave.variants, east], rfl⟩

theorem tilePos_not_neighbour : tilePos center ∉ neighbours center radius (tilePos center) := by
  intro h
  have hvariant := (List.mem_filter.mp h).1
  generalize tilePos center = tile at hvariant
  cases tile
  simp only [Wave.variants, List.mem_cons, List.not_mem_nil, or_false, Point2DI.mk.injEq] at hvariant
  omega

theorem tilePos_mem_laterTiles (hradius : 0 ≤ radius) : tilePos center ∈ laterTiles center radius := by
  have hfuel : (opened center radius).measure (box center radius) + 1
      ≤ (start center).measure (box center radius) := by
    have hstart : (start center).queue = [tilePos center] := rfl
    exact Frontier.measure_advance (neighbours_box (tilePos center)) hstart
  rw [measure_start] at hfuel
  rcases discovered_foldl (neighbours center radius (tilePos center)) ⟨[], []⟩ with ⟨news, hnews⟩
  have heast : east (tilePos center) ∈ laterTiles center radius := by
    apply mem_sweep_of_queue neighbours_box (by omega)
    rw [opened, hnews.queue, List.nil_append, hnews.news]
    exact ⟨east_mem_neighbours hradius, List.not_mem_nil⟩
  apply mem_sweep_of_next neighbours_box (by omega) heast (tilePos_mem_neighbours hradius)
  intro hseen
  rcases (hnews.seen _).mp hseen with hseen | hseen
  . cases hseen
  . exact tilePos_not_neighbour hseen

theorem mem_laterTiles_iff (hradius : 0 ≤ radius) {tile : Point2DI}
    : tile ∈ laterTiles center radius ↔ tooFar center radius tile = false := by
  rw [← mem_tiles_iff hradius, tiles_eq_cons, List.mem_cons]
  constructor
  . exact .inr
  . rintro (rfl | h)
    . exact tilePos_mem_laterTiles hradius
    . exact h

end BuildPos

open BuildPos

theorem findBuildposNear_order (center : Point2D) {radius : Rat} (hradius : 0 ≤ radius)
    : ∃ rest : List Point2DI, rest.Nodup ∧ tilePos center ∈ rest ∧
        (∀ tile : Point2DI, tile ∈ rest ↔ distSquared tile.toPoint2D center ≤ (radius + 3) ^ 2) ∧
        ∀ (m : Type → Type) [Monad m] [LawfulMonad m] (placement : AbilityId → Point2D → m Bool)
          (building : AbilityId),
          findBuildposNear placement center radius building
            =
          Option.map Point2DI.toPoint2D <$> (tilePos center :: rest).findM? fun tile =>
            placement building tile.toPoint2D := by
  refine ⟨laterTiles center radius, nodup_laterTiles center radius, tilePos_mem_laterTiles hradius,
    ?_, ?_⟩
  . intro tile
    rw [within_iff]
    apply mem_laterTiles_iff hradius
  . intro m _ _ placement building
    rw [← tiles_eq_cons]
    apply findBuildposNear_eq_findM?

theorem findBuildposNear_order_pylon
    : ∃ rest : List Point2DI, rest.Nodup ∧ tilePos ⟨1 / 2, 1 / 2⟩ ∈ rest ∧
        (∀ tile : Point2DI, tile ∈ rest
          ↔ distSquared tile.toPoint2D ⟨1 / 2, 1 / 2⟩ ≤ (13 / 2 + 3) ^ 2) ∧
        ∀ (m : Type → Type) [Monad m] [LawfulMonad m] (placement : AbilityId → Point2D → m Bool)
          (building : AbilityId),
          findBuildposNear placement ⟨1 / 2, 1 / 2⟩ (13 / 2) building
            =
          Option.map Point2DI.toPoint2D <$> (tilePos ⟨1 / 2, 1 / 2⟩ :: rest).findM? fun tile =>
            placement building tile.toPoint2D := by
  apply findBuildposNear_order ⟨1 / 2, 1 / 2⟩ (by decide +kernel : (0 : Rat) ≤ 13 / 2)

end Sc2
