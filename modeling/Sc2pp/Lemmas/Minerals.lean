import Sc2pp.Lemmas.Map

/-!
This module contains which cells the minerals occupy on a new map. The table of footprints lists two
of the three types the constructor takes for mineral fields, the third gets the default footprint.
-/

namespace Sc2.Map

open Utils

def strip (u : Unit) : List Point2DI :=
  let tile := tilePos (.ofPoint3D u.pos)
  [⟨tile.x - 1, tile.y⟩, tile]

def OnStrip (units : Units) (p : Point2DI) : Prop :=
  ∃ u ∈ units, isMineral u = true ∧ p ∈ strip u

instance (units : Units) (p : Point2DI) : Decidable (OnStrip units p) :=
  inferInstanceAs (Decidable (∃ u ∈ units, isMineral u = true ∧ p ∈ strip u))

def StripsCoverPurifiers (units : Units) : Prop :=
  ∀ u ∈ units, u.unitType = .neutralPurifierMineralField →
    ∀ dx ∈ [(-1 : Int), 0, 1], ∀ dy ∈ [(-1 : Int), 0, 1],
      OnStrip units ((tilePos (.ofPoint3D u.pos)).add ⟨dx, dy⟩)

theorem deltas_mineralField
    : (getFootprint .neutralMineralField).deltas = [⟨-1, 0⟩, ⟨0, 0⟩] ∧
      (getFootprint .neutralMineralField750).deltas = [⟨-1, 0⟩, ⟨0, 0⟩] := by
  decide +kernel

theorem mem_deltas_purifier (delta : Point2DI)
    : delta ∈ (getFootprint .neutralPurifierMineralField).deltas
        ↔
      delta.x ∈ [(-1 : Int), 0, 1] ∧ delta.y ∈ [(-1 : Int), 0, 1] := by
  have hdeltas : (getFootprint .neutralPurifierMineralField).deltas = [
      ⟨-1, -1⟩, ⟨0, -1⟩, ⟨1, -1⟩, ⟨-1, 0⟩, ⟨0, 0⟩, ⟨1, 0⟩, ⟨-1, 1⟩, ⟨0, 1⟩, ⟨1, 1⟩] := by
    decide +kernel
  rw [hdeltas]
  cases delta
  simp only [List.mem_cons, List.not_mem_nil, or_false, Point2DI.mk.injEq]
  omega

theorem unitTiles_of_listed {u : Unit}
    (h : u.unitType = .neutralMineralField ∨ u.unitType = .neutralMineralField750)
    : unitTiles u = strip u := by
  have hdeltas : (getFootprint u.unitType).deltas = [⟨-1, 0⟩, ⟨0, 0⟩] := by
    rcases h with h | h
    . rw [h]
      apply deltas_mineralField.1
    . rw [h]
      apply deltas_mineralField.2
  simp only [unitTiles, Footprint.tilesAt, hdeltas, strip, List.map_cons, List.map_nil]
  simp [Point2DI.add, Int.sub_eq_add_neg]

theorem mem_unitTiles_purifier {u : Unit} (h : u.unitType = .neutralPurifierMineralField)
    {p : Point2DI}
    : p ∈ unitTiles u
        ↔
      ∃ dx ∈ [(-1 : Int), 0, 1], ∃ dy ∈ [(-1 : Int), 0, 1],
        p = (tilePos (.ofPoint3D u.pos)).add ⟨dx, dy⟩ := by
  simp only [unitTiles, Footprint.tilesAt, h, List.mem_map, mem_deltas_purifier]
  constructor
  . intro hp
    rcases hp with ⟨delta, ⟨hx, hy⟩, rfl⟩
    exact ⟨delta.x, hx, delta.y, hy, rfl⟩
  . intro hp
    rcases hp with ⟨dx, hx, dy, hy, rfl⟩
    exact ⟨⟨dx, dy⟩, ⟨hx, hy⟩, rfl⟩

theorem isMineral_cases {u : Unit} (h : isMineral u = true)
    : (u.unitType = .neutralMineralField ∨ u.unitType = .neutralMineralField750) ∨
      u.unitType = .neutralPurifierMineralField := by
  simpa [isMineral] using h

theorem strip_subset_unitTiles {u : Unit} (h : isMineral u = true) {p : Point2DI}
    (hp : p ∈ strip u) : p ∈ unitTiles u := by
  rcases isMineral_cases h with hlisted | hpurifier
  . rwa [unitTiles_of_listed hlisted]
  . rw [mem_unitTiles_purifier hpurifier]
    simp only [strip, List.mem_cons, List.not_mem_nil, or_false] at hp
    rcases hp with rfl | rfl
    . exact ⟨-1, by simp, 0, by simp, by simp [Point2DI.add, Int.sub_eq_add_neg]⟩
    . exact ⟨0, by simp, 0, by simp, by simp [Point2DI.add]⟩

theorem covered_iff_onStrip (units : Units)
    : (∀ p, Covered isMineral units p ↔ OnStrip units p) ↔ StripsCoverPurifiers units := by
  constructor
  . intro h u hu hpurifier dx hdx dy hdy
    have hmineral : isMineral u = true := by simp [isMineral, hpurifier]
    rw [← h]
    exact ⟨u, hu, hmineral, (mem_unitTiles_purifier hpurifier).mpr ⟨dx, hdx, dy, hdy, rfl⟩⟩
  . intro h p
    constructor
    . intro hcovered
      rcases hcovered with ⟨u, hu, hmineral, hp⟩
      rcases isMineral_cases hmineral with hlisted | hpurifier
      . rw [unitTiles_of_listed hlisted] at hp
        exact ⟨u, hu, hmineral, hp⟩
      . rcases (mem_unitTiles_purifier hpurifier).mp hp with ⟨dx, hdx, dy, hdy, rfl⟩
        apply h u hu hpurifier dx hdx dy hdy
    . intro hstrip
      rcases hstrip with ⟨u, hu, hmineral, hp⟩
      exact ⟨u, hu, hmineral, strip_subset_unitTiles hmineral hp⟩

theorem mineral_cell_iff {obs : Observation} (hinside : FootprintsInside obs.gameInfo obs.units)
    (hplain : ∀ u ∈ obs.units, isGeyser u = false ∧ type .protossNexus u = false) {map : Map}
    (hnew : new obs = .ok map) (p : Point2DI)
    : map.topology.cell p = some '*' ↔ Covered isMineral obs.units p := by
  have hgeysers : obs.units.filter isGeyser = [] := by
    rw [List.filter_eq_nil_iff]
    intro u hu
    simp [(hplain u hu).1]
  have hnexuses : obs.units.filter (type .protossNexus) = [] := by
    rw [List.filter_eq_nil_iff]
    intro u hu
    simp [(hplain u hu).2]
  have hminerals : ∀ u ∈ obs.units, isMineral u = true → ∀ p ∈ unitTiles u,
      p ∈ pixels obs.gameInfo.pathingGrid.width obs.gameInfo.pathingGrid.height := by
    intro u hu hmineral p hp
    apply Grid.mem_pixels_iff_inside.mpr
    apply hinside u hu (by simp [isDrawn, hmineral]) p hp
  rcases terrain_of_new hnew with ⟨terrain, hsized, hterrain, hdraw⟩
  rcases applyFootprints_spec '*' hminerals hsized with ⟨mined, hmined, -, hcell⟩
  rw [hgeysers, hnexuses, hmined] at hdraw
  simp only [applyFootprints, List.foldlM_nil, Outcome.pure_eq_ok, Outcome.bind_ok,
    Except.ok.injEq] at hdraw
  rw [← hdraw, hcell]
  split
  . next hcovered => simp only [hcovered]
  . next hcovered =>
    simp only [hcovered, iff_false]
    intro hstar
    have hmark := hterrain p '*' hstar
    simp at hmark

theorem minerals_iff {obs : Observation} (hinside : FootprintsInside obs.gameInfo obs.units)
    (hplain : ∀ u ∈ obs.units, isGeyser u = false ∧ type .protossNexus u = false)
    : (SameSize obs.gameInfo → ∃ map, new obs = .ok map) ∧
      ∀ map, new obs = .ok map →
        ((∀ p, map.topology.cell p = some '*' ↔ OnStrip obs.units p)
          ↔
        StripsCoverPurifiers obs.units) := by
  constructor
  . intro hsize
    rcases new_spec hsize hinside with ⟨map, hnew, -⟩
    exact ⟨map, hnew⟩
  . intro map hnew
    simp only [mineral_cell_iff hinside hplain hnew]
    apply covered_iff_onStrip

def mineralObs (unitType : UnitTypeId) : Observation :=
  { Observation.new smallInfo [] [] with unitPool := { units := [unitAt unitType 3 2] } }

theorem minerals_iff_listed
    : ∃ map, new (mineralObs .neutralMineralField) = .ok map ∧
        ∀ p, map.topology.cell p = some '*' ↔ OnStrip (mineralObs .neutralMineralField).units p := by
  have hspec := @minerals_iff (mineralObs .neutralMineralField) (by decide +kernel)
    (by decide +kernel)
  rcases hspec.1 ⟨rfl, rfl⟩ with ⟨map, hnew⟩
  refine ⟨map, hnew, (hspec.2 map hnew).mpr ?_⟩
  intro u hu hpurifier
  revert u
  decide +kernel

theorem not_minerals_purifier
    : ¬ ∀ obs : Observation, FootprintsInside obs.gameInfo obs.units →
        (∀ u ∈ obs.units, isGeyser u = false ∧ type .protossNexus u = false) →
          ∀ map, new obs = .ok map →
            ∀ p, map.topology.cell p = some '*' ↔ OnStrip obs.units p := by
  intro h
  have hinside : FootprintsInside (mineralObs .neutralPurifierMineralField).gameInfo
      (mineralObs .neutralPurifierMineralField).units := by
    decide +kernel
  have hplain : ∀ u ∈ (mineralObs .neutralPurifierMineralField).units,
      isGeyser u = false ∧ type .protossNexus u = false := by
    decide +kernel
  rcases new_spec ⟨rfl, rfl⟩ hinside with ⟨map, hnew, -⟩
  have hcell := h _ hinside hplain map hnew ⟨3, 3⟩
  rw [mineral_cell_iff hinside hplain hnew] at hcell
  revert hcell
  decide +kernel

end Sc2.Map
