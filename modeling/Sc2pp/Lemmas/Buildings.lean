import Sc2pp.Lemmas.Map

/-!
This module contains what a list of placed buildings does to a map. On the cells of the topology a
placed building paints the indices of its tiles, so only which buildings are placed matters, and
neither their order nor how often each is placed.
-/

namespace Sc2.Map

open Utils Canvas

def placeBuildings (map : Map) (units : Units) (mark : Char) : Outcome Map :=
  units.foldlM (fun map u => map.placeBuilding u mark) map

def BuiltOn (units : Units) (p : Point2DI) : Prop :=
  ∃ u ∈ units, isBuildingType u.unitType = true ∧ p ∈ unitTiles u

instance (units : Units) (p : Point2DI) : Decidable (BuiltOn units p) :=
  inferInstanceAs (Decidable (∃ u ∈ units, isBuildingType u.unitType = true ∧ p ∈ unitTiles u))

def BuildingsInside (map : Map) (units : Units) : Prop :=
  ∀ u ∈ units, isBuildingType u.unitType = true → ∀ t ∈ unitTiles u, map.topology.Inside t

structure SameFrame (map map' : Map) : Prop where
  pathingGrid : map'.pathingGrid = map.pathingGrid
  placementGrid : map'.placementGrid = map.placementGrid
  sized : map'.topology.Sized map.topology.width map.topology.height

-- The indices of the cells a building is drawn on.
def builtIndices (width : Int) (u : Unit) : List Nat :=
  if isBuildingType u.unitType then (unitTiles u).map (Grid.flatIndex width) else []

theorem placeBuilding_of_other {u : Unit} (h : isBuildingType u.unitType = false) (map : Map)
    (mark : Char) : map.placeBuilding u mark = .ok map := by
  unfold placeBuilding
  rw [h]
  rfl

theorem paints_placeBuilding {map : Map} {u : Unit} {mark : Char}
    (h : isBuildingType u.unitType = true → ∀ t ∈ unitTiles u, map.topology.Inside t)
    : Paints (SameFrame map) (fun map i => map.topology.cells[i]?)
        (fun map u => map.placeBuilding u mark) (builtIndices map.topology.width)
        (fun _ => some mark) u := by
  intro map₁ hframe
  unfold builtIndices
  cases hbuilding : isBuildingType u.unitType with
  | false => exact ⟨map₁, placeBuilding_of_other hbuilding map₁ mark, hframe, by simp⟩
  | true =>
    have htiles : ∀ t ∈ unitTiles u,
        Grid.flatIndex map₁.topology.width t < map₁.topology.cells.length := by
      intro t ht
      rw [hframe.sized.1, Grid.length_cells_eq hframe.sized]
      apply Grid.flatIndex_lt (h hbuilding t ht)
    rcases applyFootprint_of_lt htiles mark with ⟨topology, happly, hsized, hcells⟩
    rw [hframe.sized.1, hframe.sized.2] at hsized
    refine ⟨{ map₁ with topology := topology }, ?_,
      ⟨hframe.pathingGrid, hframe.placementGrid, hsized⟩, ?_⟩
    . unfold placeBuilding Utils.placeBuilding
      simp [hbuilding, happly]
    . funext i
      have hcell := hcells i
      rw [hframe.sized.1] at hcell
      simp only [paint_apply, if_true]
      exact hcell

theorem placeBuildings_cells {map : Map} {units : Units} (h : BuildingsInside map units)
    (mark : Char)
    : ∃ map', map.placeBuildings units mark = .ok map' ∧ SameFrame map map' ∧
        (fun i : Nat => map'.topology.cells[i]?)
          =
        paint (fun i => map.topology.cells[i]?) (units.flatMap (builtIndices map.topology.width))
          (fun _ => some mark) := by
  have hpaints : ∀ u ∈ units, Paints (SameFrame map) (fun map i => map.topology.cells[i]?)
      (fun map u => map.placeBuilding u mark) (builtIndices map.topology.width)
      (fun _ => some mark) u := by
    intro u hu
    apply paints_placeBuilding (h u hu)
  apply Paints.foldlM hpaints map ⟨rfl, rfl, rfl, rfl⟩

theorem mem_builtIndices {map : Map} {units : Units} (h : BuildingsInside map units)
    {p : Point2DI} (hp : map.topology.Inside p)
    : Grid.flatIndex map.topology.width p ∈ units.flatMap (builtIndices map.topology.width)
        ↔
      BuiltOn units p := by
  simp only [List.mem_flatMap, builtIndices]
  constructor
  . intro hmem
    rcases hmem with ⟨u, hu, hindex⟩
    split at hindex
    . next hbuilding =>
      rcases List.mem_map.mp hindex with ⟨t, ht, heq⟩
      rw [Grid.flatIndex_inj (h u hu hbuilding t ht) hp heq] at ht
      exact ⟨u, hu, hbuilding, ht⟩
    . cases hindex
  . intro hbuilt
    rcases hbuilt with ⟨u, hu, hbuilding, ht⟩
    refine ⟨u, hu, ?_⟩
    rw [if_pos hbuilding]
    apply List.mem_map_of_mem ht

theorem placeBuildings_cell {map : Map} {units : Units} (h : BuildingsInside map units)
    (mark : Char)
    : ∃ map', map.placeBuildings units mark = .ok map' ∧ SameFrame map map' ∧
        ∀ p, map'.topology.cell p
            =
          if BuiltOn units p then some mark else map.topology.cell p := by
  rcases placeBuildings_cells h mark with ⟨map', hplace, hframe, hcells⟩
  refine ⟨map', hplace, hframe, ?_⟩
  intro p
  have hinside : map'.topology.Inside p ↔ map.topology.Inside p :=
    Grid.inside_iff_of_sized hframe.sized ⟨rfl, rfl⟩ p
  by_cases hp : map.topology.Inside p
  . have hcell := congrFun hcells (Grid.flatIndex map.topology.width p)
    simp only [paint_apply, mem_builtIndices h hp] at hcell
    rw [Grid.cell_of_inside (hinside.mpr hp), Grid.cell_of_inside hp, hframe.sized.1, hcell]
  . rw [Grid.cell_eq_none_iff.mpr (mt hinside.mp hp), Grid.cell_eq_none_iff.mpr hp, if_neg]
    intro hbuilt
    rcases hbuilt with ⟨u, hu, hbuilding, ht⟩
    exact hp (h u hu hbuilding p ht)

theorem placeBuildings_congr {map map' : Map} {units units' : Units} {mark : Char}
    (h : BuildingsInside map units) (hplace : map.placeBuildings units mark = .ok map')
    (hmem : ∀ u, u ∈ units' ↔ u ∈ units) : map.placeBuildings units' mark = .ok map' := by
  have h' : BuildingsInside map units' := by
    intro u hu
    apply h u ((hmem u).mp hu)
  rcases placeBuildings_cells h mark with ⟨map₁, hplace₁, hframe₁, hcells₁⟩
  rcases placeBuildings_cells h' mark with ⟨map₂, hplace₂, hframe₂, hcells₂⟩
  rw [hplace, Except.ok.injEq] at hplace₁
  subst hplace₁
  have hregion : ∀ i, i ∈ units'.flatMap (builtIndices map.topology.width)
      ↔ i ∈ units.flatMap (builtIndices map.topology.width) := by
    intro i
    simp only [List.mem_flatMap, hmem]
  rw [paint_congr hregion, ← hcells₁] at hcells₂
  have htopology : map₂.topology = map'.topology := by
    apply Grid.eq_of_cells _ (congrFun hcells₂)
    rw [hframe₁.sized.1, hframe₁.sized.2]
    exact hframe₂.sized
  have hpathing := hframe₂.pathingGrid.trans hframe₁.pathingGrid.symm
  have hplacement := hframe₂.placementGrid.trans hframe₁.placementGrid.symm
  rw [hplace₂, Except.ok.injEq]
  cases map₂
  cases map'
  simp_all only

theorem placeBuildings_order {map : Map} {units : Units} (h : BuildingsInside map units)
    (mark : Char)
    : ∃ map', map.placeBuildings units mark = .ok map' ∧ SameFrame map map' ∧
        (∀ units' : Units, (∀ u, u ∈ units' ↔ u ∈ units) →
          map.placeBuildings units' mark = .ok map') ∧
        (∀ p, map'.topology.cell p
            =
          if BuiltOn units p then some mark else map.topology.cell p) ∧
        ∀ u, isBuildingType u.unitType = false →
          ∀ map₁ : Map, map₁.placeBuilding u mark = .ok map₁ := by
  rcases placeBuildings_cell h mark with ⟨map', hplace, hframe, hcell⟩
  refine ⟨map', hplace, hframe, ?_, hcell, ?_⟩
  . intro units' hmem
    apply placeBuildings_congr h hplace hmem
  . intro u hu map₁
    apply placeBuilding_of_other hu

def blankMap : Map where
  pathingGrid := smallGrid true
  placementGrid := smallGrid 0
  topology := smallGrid '.'

theorem placeBuildings_order_blank
    : ∃ map', blankMap.placeBuildings [unitAt .protossPylon 3 2, unitAt .protossGateway 2 3] 'b'
          = .ok map' ∧
        blankMap.placeBuildings [unitAt .protossGateway 2 3, unitAt .protossPylon 3 2,
          unitAt .protossGateway 2 3] 'b' = .ok map' ∧
        map'.topology.cell ⟨3, 1⟩ = some 'b' ∧ map'.topology.cell ⟨1, 1⟩ = some '.' := by
  have hinside : BuildingsInside blankMap
      [unitAt .protossPylon 3 2, unitAt .protossGateway 2 3] := by
    unfold BuildingsInside
    decide +kernel
  rcases placeBuildings_order hinside 'b' with ⟨map', hplace, -, hsame, hcell, -⟩
  refine ⟨map', hplace, ?_, ?_, ?_⟩
  . apply hsame
    intro u
    simp only [List.mem_cons, List.not_mem_nil, or_false]
    grind
  . rw [hcell]
    decide +kernel
  . rw [hcell]
    decide +kernel

end Sc2.Map
