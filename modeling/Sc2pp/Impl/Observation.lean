import Sc2pp.Proto.Sc2api
import Sc2pp.Impl.Converters
import Sc2pp.Impl.Grid
import Sc2pp.Impl.UnitPool

/-!
This module contains what the client knows about the game: the information that stays the same
during a game and the part that follows the last observation.
-/

namespace Sc2

structure GameInfo where
  mapName : String
  localMapPath : String
  mapSize : Point2DI
  pathingGrid : Utils.Grid Bool
  terrainHeight : Utils.Grid UInt8
  placementGrid : Utils.Grid UInt8
  startLocations : List Point2D
  deriving Inhabited

def Proto.ResponseGameInfo.fromProto (x : Proto.ResponseGameInfo) : Outcome GameInfo := do
  let startRaw := x.startRaw.getD {}
  let mapSize := startRaw.mapSize.getD {}
  let pathingGrid ← Utils.Grid.ofImage id (startRaw.pathingGrid.getD {})
  let terrainHeight ← Utils.Grid.ofImage Bool.toUInt8 (startRaw.terrainHeight.getD {})
  let placementGrid ← Utils.Grid.ofImage Bool.toUInt8 (startRaw.placementGrid.getD {})
  return {
    mapName := x.mapName.getD ""
    localMapPath := x.localMapPath.getD ""
    mapSize := ⟨(mapSize.x.getD 0).toInt, (mapSize.y.getD 0).toInt⟩
    pathingGrid := pathingGrid
    terrainHeight := terrainHeight
    placementGrid := placementGrid
    startLocations := startRaw.startLocations.map Proto.Point2D.fromProto
  }

structure Observation where
  raw : Proto.ResponseObservation
  unitPool : UnitPool
  created : Units
  damaged : Units
  self : Units
  gameInfo : GameInfo
  unitTypeData : List Proto.UnitTypeData
  abilityData : List Proto.AbilityData

namespace Observation

def new (gameInfo : GameInfo) (unitTypeData : List Proto.UnitTypeData)
    (abilityData : List Proto.AbilityData) : Observation where
  raw := {}
  unitPool := {}
  created := []
  damaged := []
  self := []
  gameInfo := gameInfo
  unitTypeData := unitTypeData
  abilityData := abilityData

def update (obs : Observation) (responseObs : Proto.ResponseObservation) : Outcome Observation := do
  let (units, _, _) ← convertObservation responseObs
  let (changes, unitPool) ← obs.unitPool.update units
  return {
    obs with
    unitPool := unitPool
    created := changes.newUnits
    damaged := changes.damaged
    self := changes.self
    raw := responseObs
  }

def unitsSelf (obs : Observation) : Units :=
  obs.self

def unitsCreated (obs : Observation) : Units :=
  obs.created

def units (obs : Observation) : Units :=
  obs.unitPool.units

end Observation

end Sc2
