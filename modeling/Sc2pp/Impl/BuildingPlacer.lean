import Sc2pp.Impl.Footprints

/-!
This module contains the placer of buildings: a pattern of characters on which footprints are laid
out one slot after the other. The `data` of a constructor call are the characters that can be read
through its pointer.
-/

namespace Sc2.Utils

structure BuildingPlacerPattern where
  width : Int
  height : Int
  fitter : Char
  data : FixedVector Char 100
  footprints : FixedVector (Point2DI × Footprint) 5

namespace BuildingPlacerPattern

abbrev Visited := FixedVector Point2DI 100

def getAt (pattern : BuildingPlacerPattern) (pos : Point2DI) : Outcome Char :=
  pattern.data.getIndex (sizeT (pos.y * pattern.width + pos.x))

def canFit (pattern : BuildingPlacerPattern) (footprint : Footprint) (center : Point2DI)
    : Outcome Bool :=
  go footprint.deltas
where
  go : List Point2DI → Outcome Bool
    | [] => return true
    | delta :: deltas => do
      let tile := center.add delta
      if tile.x < 0 || pattern.width ≤ tile.x then
        return false
      if tile.y < 0 || pattern.height ≤ tile.y then
        return false
      let pixel ← pattern.getAt tile
      if pixel != 'b' then
        return false
      go deltas

def findCenter (pattern : BuildingPlacerPattern) (footprint : Footprint) (visited : Visited)
    : Outcome (Option Point2DI × Visited) :=
  go (pixels pattern.width pattern.height)
where
  go : List Point2DI → Outcome (Option Point2DI × Visited)
    | [] => return (none, visited)
    | center :: centers => do
      if visited.count Point2DI.eq center then
        go centers
      else if ← pattern.canFit footprint center then
        let visited ← footprint.deltas.foldlM (fun visited t =>
          visited.pushBack (center.add t)) visited
        return (some center, visited)
      else
        go centers

def fillSlot (pattern : BuildingPlacerPattern) (visited : Visited)
    : List (UnitTypeId × Footprint) → Outcome (BuildingPlacerPattern × Visited)
  | [] => return (pattern, visited)
  | (type, footprint) :: rest => do
    if !isBuildingType type then
      fillSlot pattern visited rest
    else
      let (center, visited) ← pattern.findCenter footprint visited
      match center with
      | some center =>
        let footprints ← pattern.footprints.pushBack (center, footprint)
        return ({ pattern with footprints := footprints }, visited)
      | none => fillSlot pattern visited rest

def fillSlots (pattern : BuildingPlacerPattern) (visited : Visited)
    : Nat → Outcome (BuildingPlacerPattern × Visited)
  | 0 => return (pattern, visited)
  | slots + 1 => do
    let (pattern, visited) ← fillSlots pattern visited slots
    fillSlot pattern visited allFootprints

def new (data : List Char) (width height slotsCount : Int) (fitter : Char)
    : Outcome BuildingPlacerPattern := do
  Outcome.assertThat (slotsCount ≤ 5)
  Outcome.assertThat (width * height ≤ 100)
  let cells ← (List.range (width * height).toNat).foldlM (fun cells i => do
    let c ← Outcome.elementAt data i
    cells.setIndex i c) (FixedVector.new 0 (by decide))
  let pattern : BuildingPlacerPattern := {
    width := width
    height := height
    fitter := fitter
    data := cells
    footprints := FixedVector.new 0 (by decide)
  }
  let (pattern, _) ← pattern.fillSlots (FixedVector.new 0 (by decide)) slotsCount.toNat
  return pattern

end BuildingPlacerPattern

end Sc2.Utils
