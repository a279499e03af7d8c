import Sc2pp.Impl.Map
import Sc2pp.Lemmas.GridUtils

/-!
This module contains what the topology of a map shows: at each point one specification by priority,
of which the passes of the constructor are the layers. `FootprintsInside` says that the units the
constructor draws stand inside the grid.
-/

namespace Sc2.Map

open Utils Canvas

def Covered (kind : Unit → Bool) (units : Units) (p : Point2DI) : Prop :=
  ∃ u ∈ units, kind u = true ∧ p ∈ unitTiles u

instance (kind : Unit → Bool) (units : Units) (p : Point2DI) : Decidable (Covered kind units p) :=
  inferInstanceAs (Decidable (∃ u ∈ units, kind u = true ∧ p ∈ unitTiles u))

def terrainAt (gameInfo : GameInfo) (p : Point2DI) : Char :=
  if gameInfo.pathingGrid.cell p = some true then
    if gameInfo.placementGrid.cell p = some 0 then '/' else ' '
  else
    '#'

def topologyAt (gameInfo : GameInfo) (units : Units) (p : Point2DI) : Char :=
  if Covered (type .protossNexus) units p then
    'n'
  else if Covered isGeyser units p then
    '$'
  else if Covered isMineral units p then
    '*'
  else
    terrainAt gameInfo p

def isDrawn (u : Unit) : Bool :=
  isMineral u || isGeyser u || type .protossNexus u

def FootprintsInside (gameInfo : GameInfo) (units : Units) : Prop :=
  ∀ u ∈ units, isDrawn u = true → ∀ p ∈ unitTiles u, gameInfo.pathingGrid.Inside p

instance (gameInfo : GameInfo) (units : Units) : Decidable (FootprintsInside gameInfo units) :=
  inferInstanceAs (Decidable (∀ u ∈ units, isDrawn u = true →
    ∀ p ∈ unitTiles u, gameInfo.pathingGrid.Inside p))

def SameSize (gameInfo : GameInfo) : Prop :=
  gameInfo.placementGrid.Sized gameInfo.pathingGrid.width gameInfo.pathingGrid.height

theorem mem_unitTiles_filter {kind : Unit → Bool} {units : Units} {p : Point2DI}
    : p ∈ (units.filter kind).flatMap unitTiles ↔ Covered kind units p := by
  simp only [List.mem_flatMap, List.mem_filter, Covered, and_assoc]

theorem applyFootprints_spec {width height : Int} {kind : Unit → Bool} {units : Units}
    (value : Char)
    (h : ∀ u ∈ units, kind u = true → ∀ p ∈ unitTiles u, p ∈ pixels width height)
    {topology : Grid Char} (hsized : topology.Sized width height)
    : ∃ topology', applyFootprints topology (units.filter kind) value = .ok topology' ∧
        topology'.Sized width height ∧
        ∀ p, topology'.cell p = if Covered kind units p then some value else topology.cell p := by
  have hpaints : ∀ u ∈ units.filter kind,
      Paints (Grid.Sized width height) Grid.cell
        (fun g u => applyFootprint g (tilePos (.ofPoint3D u.pos)) (getFootprint u.unitType) value)
        unitTiles (fun _ => some value) u := by
    intro u hu
    rw [List.mem_filter] at hu
    apply paints_unit (h u hu.1 hu.2)
  rcases Paints.foldlM hpaints topology hsized with ⟨topology', hfold, hsized', hcell⟩
  refine ⟨topology', hfold, hsized', ?_⟩
  intro p
  rw [hcell, paint_apply]
  simp only [mem_unitTiles_filter]

theorem drawPathing_spec (pathingGrid : Grid Bool) {topology : Grid Char}
    (hsized : topology.Sized pathingGrid.width pathingGrid.height)
    : ∃ topology', (pixels pathingGrid.width pathingGrid.height).foldlM (fun topology pixel => do
          let pathing ← pathingGrid.getAt pixel
          topology.setAt pixel (if pathing then ' ' else '#')) topology = .ok topology' ∧
        topology'.Sized pathingGrid.width pathingGrid.height ∧
        ∀ p, pathingGrid.Inside p →
          topology'.cell p = some (if pathingGrid.cell p = some true then ' ' else '#') := by
  have hpaints : ∀ pixel ∈ pixels pathingGrid.width pathingGrid.height,
      Paints (Grid.Sized pathingGrid.width pathingGrid.height) Grid.cell
        (fun (topology : Grid Char) pixel => do
          let pathing ← pathingGrid.getAt pixel
          topology.setAt pixel (if pathing then ' ' else '#'))
        (fun pixel => [pixel])
        (fun p => some (if pathingGrid.cell p = some true then ' ' else '#')) pixel := by
    intro pixel hpixel
    rcases Grid.exists_cell (Grid.mem_pixels_iff_inside.mp hpixel) with ⟨pathing, hcell, hget⟩
    apply Grid.paints_setAt (p := pixel) (v := if pathing then ' ' else '#')
    . intro grid
      rw [hget, Outcome.bind_ok]
    . rfl
    . simp [hcell]
    . exact hpixel
  rcases Paints.foldlM hpaints topology hsized with ⟨topology', hfold, hsized', hcell⟩
  refine ⟨topology', hfold, hsized', ?_⟩
  intro p hp
  rw [hcell, paint_apply, if_pos]
  rw [List.flatMap_singleton']
  apply Grid.mem_pixels_iff_inside.mpr hp

def isRamp (pathing : Bool) (placement : UInt8) : Bool :=
  pathing && !(placement != 0)

theorem mem_ramps {pathingGrid : Grid Bool} {placementGrid : Grid UInt8} {p : Point2DI}
    (hp : pathingGrid.Inside p)
    : p ∈ (pixels pathingGrid.width pathingGrid.height).filter
          (unitesAt pathingGrid placementGrid isRamp)
        ↔
      pathingGrid.cell p = some true ∧ placementGrid.cell p = some 0 := by
  rw [List.mem_filter, Grid.mem_pixels_iff_inside]
  unfold unitesAt
  cases pathingGrid.cell p with
  | none => simp
  | some pathing =>
    cases placementGrid.cell p with
    | none => simp
    | some placement => simp [isRamp, hp]

theorem drawRamps_spec {width height : Int} (ramps : List Point2DI) {topology : Grid Char}
    (hramps : ∀ r ∈ ramps, r ∈ pixels width height) (hsized : topology.Sized width height)
    : ∃ topology', ramps.foldlM (fun topology r => topology.setAt r '/') topology = .ok topology' ∧
        topology'.Sized width height ∧
        ∀ p, topology'.cell p = if p ∈ ramps then some '/' else topology.cell p := by
  have hpaints : ∀ r ∈ ramps,
      Paints (Grid.Sized width height) Grid.cell (fun (topology : Grid Char) r => topology.setAt r '/')
        (fun r => [r]) (fun _ => some '/') r := by
    intro r hr
    exact Grid.paints_setAt (fun _ => rfl) rfl rfl (hramps r hr)
  rcases Paints.foldlM hpaints topology hsized with ⟨topology', hfold, hsized', hcell⟩
  refine ⟨topology', hfold, hsized', ?_⟩
  intro p
  rw [hcell, paint_apply, List.flatMap_singleton']

theorem new_spec {obs : Observation} (hsize : SameSize obs.gameInfo)
    (hinside : FootprintsInside obs.gameInfo obs.units)
    : ∃ map, new obs = .ok map ∧
        map.topology.Sized obs.gameInfo.pathingGrid.width obs.gameInfo.pathingGrid.height ∧
        ∀ p, obs.gameInfo.pathingGrid.Inside p →
          map.topology.cell p = some (topologyAt obs.gameInfo obs.units p) := by
  have hunit : ∀ kind : Unit → Bool, (∀ u, kind u = true → isDrawn u = true) →
      ∀ u ∈ obs.units, kind u = true → ∀ p ∈ unitTiles u,
        p ∈ pixels obs.gameInfo.pathingGrid.width obs.gameInfo.pathingGrid.height := by
    intro kind hkind u hu hu' p hp
    apply Grid.mem_pixels_iff_inside.mpr (hinside u hu (hkind u hu') p hp)
  rcases Grid.new_exists obs.gameInfo.pathingGrid '\x00' with ⟨blank, hblank⟩
  rcases drawPathing_spec obs.gameInfo.pathingGrid (Grid.cell_new hblank).1
    with ⟨pathed, hpathed, hsized₁, hcell₁⟩
  have hramps : (unite obs.gameInfo.pathingGrid obs.gameInfo.placementGrid
      fun pathing placement => pathing && !(placement != 0)) = _ := unite_eq_ok hsize isRamp
  rcases drawRamps_spec ((pixels _ _).filter (unitesAt _ _ isRamp)) (fun r hr => (List.mem_filter.mp hr).1) hsized₁
    with ⟨ramped, hramped, hsized₂, hcell₂⟩
  rcases applyFootprints_spec '*' (hunit isMineral (by simp +contextual [isDrawn])) hsized₂
    with ⟨mined, hmined, hsized₃, hcell₃⟩
  rcases applyFootprints_spec '$' (hunit isGeyser (by simp +contextual [isDrawn])) hsized₃
    with ⟨gassed, hgassed, hsized₄, hcell₄⟩
  rcases applyFootprints_spec 'n' (hunit (type .protossNexus) (by simp +contextual [isDrawn])) hsized₄
    with ⟨drawn, hdrawn, hsized₅, hcell₅⟩
  refine ⟨⟨obs.gameInfo.pathingGrid, obs.gameInfo.placementGrid, drawn⟩, ?_, hsized₅, ?_⟩
  . unfold new
    simp only [hblank, Outcome.bind_ok]
    rw [hpathed, Outcome.bind_ok, hramps, Outcome.bind_ok, hramped, Outcome.bind_ok, hmined,
      Outcome.bind_ok, hgassed, Outcome.bind_ok, hdrawn, Outcome.bind_ok, Outcome.pure_eq_ok]
  . intro p hp
    rw [hcell₅, hcell₄, hcell₃, hcell₂, hcell₁ p hp]
    simp only [mem_ramps hp]
    unfold topologyAt terrainAt
    split
    . rfl
    . split
      . rfl
      . split
        . rfl
        . grind

-- Whatever the sizes of the two grids, the units are drawn on the terrain.
theorem terrain_of_new {obs : Observation} {map : Map} (hnew : new obs = .ok map)
    : ∃ terrain : Grid Char,
        terrain.Sized obs.gameInfo.pathingGrid.width obs.gameInfo.pathingGrid.height ∧
        (∀ p mark, terrain.cell p = some mark → mark ∈ ['#', ' ', '/']) ∧
        (do
          let topology ← applyFootprints terrain (obs.units.filter isMineral) '*'
          let topology ← applyFootprints topology (obs.units.filter isGeyser) '$'
          applyFootprints topology (obs.units.filter (type .protossNexus)) 'n') = .ok map.topology := by
  rcases Grid.new_exists obs.gameInfo.pathingGrid '\x00' with ⟨blank, hblank⟩
  rcases drawPathing_spec obs.gameInfo.pathingGrid (Grid.cell_new hblank).1
    with ⟨pathed, hpathed, hsized₁, hcell₁⟩
  unfold new at hnew
  simp only [hblank, Outcome.bind_ok] at hnew
  rw [hpathed, Outcome.bind_ok, Outcome.bind_eq_ok] at hnew
  rcases hnew with ⟨ramps, hramps, hnew⟩
  rcases drawRamps_spec ramps (Outcome.filterM_subset hramps) hsized₁
    with ⟨ramped, hramped, hsized₂, hcell₂⟩
  rw [hramped, Outcome.bind_ok] at hnew
  refine ⟨ramped, hsized₂, ?_, ?_⟩
  . intro p mark hcell
    have hp : obs.gameInfo.pathingGrid.Inside p := by
      rw [← Grid.inside_iff_of_sized hsized₂ ⟨rfl, rfl⟩]
      by_contra hp
      rw [Grid.cell_eq_none_iff.mpr hp] at hcell
      cases hcell
    rw [hcell₂, hcell₁ p hp] at hcell
    grind
  . simp only [Outcome.bind_eq_ok, Outcome.pure_eq_ok, Except.ok.injEq] at hnew ⊢
    rcases hnew with ⟨mined, hmined, gassed, hgassed, drawn, hdrawn, rfl⟩
    exact ⟨mined, hmined, gassed, hgassed, hdrawn⟩

theorem new_of_no_units {obs : Observation} (hunits : obs.units = []) {map : Map}
    (hnew : new obs = .ok map) {p : Point2DI} {mark : Char} (hcell : map.topology.cell p = some mark)
    : mark ∈ ['#', ' ', '/'] := by
  rcases terrain_of_new hnew with ⟨terrain, -, hterrain, hdraw⟩
  simp only [hunits, List.filter_nil, applyFootprints, List.foldlM_nil, Outcome.pure_eq_ok,
    Outcome.bind_ok, Except.ok.injEq] at hdraw
  rw [← hdraw] at hcell
  apply hterrain p mark hcell

theorem covered_perm {units units' : Units} (h : units'.Perm units) (kind : Unit → Bool)
    (p : Point2DI) : Covered kind units' p ↔ Covered kind units p := by
  simp only [Covered, h.mem_iff]

theorem topologyAt_perm {units units' : Units} (h : units'.Perm units) (gameInfo : GameInfo)
    : topologyAt gameInfo units' = topologyAt gameInfo units := by
  funext p
  unfold topologyAt
  simp only [covered_perm h]

theorem topology_eq_priority {obs : Observation} (hsize : SameSize obs.gameInfo)
    (hinside : FootprintsInside obs.gameInfo obs.units)
    : ∃ map, new obs = .ok map ∧
        map.topology.Sized obs.gameInfo.pathingGrid.width obs.gameInfo.pathingGrid.height ∧
        (∀ p, obs.gameInfo.pathingGrid.Inside p →
          map.topology.cell p = some (topologyAt obs.gameInfo obs.units p)) ∧
        ∀ obs' : Observation, obs'.gameInfo = obs.gameInfo → obs'.units.Perm obs.units →
          ∃ map', new obs' = .ok map' ∧ map'.topology.cell = map.topology.cell := by
  rcases new_spec hsize hinside with ⟨map, hnew, hsized, hcell⟩
  refine ⟨map, hnew, hsized, hcell, ?_⟩
  intro obs' hinfo hperm
  have hinside' : FootprintsInside obs'.gameInfo obs'.units := by
    intro u hu
    rw [hinfo]
    apply hinside u (hperm.mem_iff.mp hu)
  rcases new_spec (hinfo ▸ hsize) hinside' with ⟨map', hnew', hsized', hcell'⟩
  refine ⟨map', hnew', ?_⟩
  rw [hinfo] at hsized' hcell'
  funext p
  by_cases hp : obs.gameInfo.pathingGrid.Inside p
  . rw [hcell' p hp, hcell p hp, topologyAt_perm hperm]
  . rw [Grid.cell_eq_none_iff.mpr, Grid.cell_eq_none_iff.mpr]
    . rwa [Grid.inside_iff_of_sized hsized ⟨rfl, rfl⟩]
    . rwa [Grid.inside_iff_of_sized hsized' ⟨rfl, rfl⟩]

def smallGrid {T : Type} (value : T) : Grid T where
  width := 6
  height := 5
  cells := List.replicate 30 value
  length_cells := by simp
  area_lt := by decide

def smallInfo : GameInfo :=
  { (default : GameInfo) with pathingGrid := smallGrid true, placementGrid := smallGrid 0 }

def unitAt (unitType : UnitTypeId) (x y : Rat) : Unit :=
  Proto.Unit.withOrders {
    unitType := some unitType.val.toUInt32
    pos := some { x := some x, y := some y }
  } []

def smallUnits : Units := [unitAt .protossNexus 2 2, unitAt .neutralMineralField 5 4]

theorem topology_eq_priority_small
    : ∃ map, new { Observation.new smallInfo [] [] with unitPool := { units := smallUnits } }
          = .ok map ∧
        map.topology.cell ⟨4, 4⟩ = some 'n' ∧ map.topology.cell ⟨5, 4⟩ = some '*' ∧
        map.topology.cell ⟨5, 0⟩ = some '/' := by
  rcases @topology_eq_priority
      { Observation.new smallInfo [] [] with unitPool := { units := smallUnits } }
      ⟨rfl, rfl⟩ (by decide +kernel) with ⟨map, hnew, -, hcell, -⟩
  refine ⟨map, hnew, ?_, ?_, ?_⟩
  . rw [hcell ⟨4, 4⟩ (by decide)]
    decide +kernel
  . rw [hcell ⟨5, 4⟩ (by decide)]
    decide +kernel
  . rw [hcell ⟨5, 0⟩ (by decide)]
    decide +kernel

end Sc2.Map
