import Sc2pp.Impl.GridUtils
import Sc2pp.Impl.Observation

/-!
This module contains the map, whose topology is drawn once from an observation. The files the source
dumps its grids to are left out.
-/

namespace Sc2

structure Map where
  pathingGrid : Utils.Grid Bool
  placementGrid : Utils.Grid UInt8
  topology : Utils.Grid Char

namespace Map

open Utils

def isMineral (u : Unit) : Bool :=
  u.unitType == .neutralMineralField
    || u.unitType == .neutralMineralField750
    || u.unitType == .neutralPurifierMineralField

def applyFootprints (topology : Grid Char) (units : Units) (value : Char) : Outcome (Grid Char) :=
  units.foldlM (fun topology u =>
    applyFootprint topology (tilePos (.ofPoint3D u.pos)) (getFootprint u.unitType) value) topology

def new (obs : Observation) : Outcome Map := do
  let pathingGrid := obs.gameInfo.pathingGrid
  let placementGrid := obs.gameInfo.placementGrid
  let topology ← Grid.new pathingGrid.width pathingGrid.height '\x00'
  let topology ← (pixels pathingGrid.width pathingGrid.height).foldlM (fun topology pixel => do
    let pathing ← pathingGrid.getAt pixel
    topology.setAt pixel (if pathing then ' ' else '#')) topology
  -- set ramps position
  let ramps ← unite pathingGrid placementGrid fun pathing placement => pathing && !(placement != 0)
  let topology ← ramps.foldlM (fun topology r => topology.setAt r '/') topology
  let topology ← applyFootprints topology (obs.units.filter isMineral) '*'
  let topology ← applyFootprints topology (obs.units.filter isGeyser) '$'
  let topology ← applyFootprints topology (obs.units.filter (type .protossNexus)) 'n'
  return { pathingGrid := pathingGrid, placementGrid := placementGrid, topology := topology }

def placeBuilding (map : Map) (u : Unit) (mark : Char := 'b') : Outcome Map :=
  if !isBuildingType u.unitType then
    pure map
  else do
    let topology ← Utils.placeBuilding map.topology u mark
    return { map with topology := topology }

end Map

end Sc2
