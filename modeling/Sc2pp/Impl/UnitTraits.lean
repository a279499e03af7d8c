import Sc2pp.Impl.AbilityNames

/-!
This module contains the predicates on unit types and units that the map, the building placer and
the agents filter with, and those on abilities, which look at the name of the ability.
-/

namespace Sc2

namespace Utils

def buildingTypes : List UnitTypeId := [
  .protossAssimilator,
  .protossAssimilatorRich,
  .protossCyberneticsCore,
  .protossDarkShrine,
  .protossFleetBeacon,
  .protossForge,
  .protossGateway,
  .protossNexus,
  .protossPhotonCannon,
  .protossPylon,
  .protossPylonOvercharged,
  .protossRoboticsBay,
  .protossRoboticsFacility,
  .protossShieldBattery,
  .protossStargate,
  .protossTemplarArchive,
  .protossTwilightCouncil,
  .protossWarpgate
]

def isBuildingType (type : UnitTypeId) : Bool :=
  buildingTypes.contains type

def isTrainingAbility (id : AbilityId) : Bool :=
  "TRAIN_".toList.isPrefixOf id.enumName.toList

def isBuildingAbility (id : AbilityId) : Bool :=
  "BUILD_".toList.isPrefixOf id.enumName.toList

end Utils

def type (type : UnitTypeId) (u : Unit) : Bool :=
  u.unitType == type

def isGeyser (u : Unit) : Bool :=
  u.unitType == .neutralVespeneGeyser
    || u.unitType == .neutralRichVespeneGeyser
    || u.unitType == .neutralProtossVespeneGeyser
    || u.unitType == .neutralPurifierVespeneGeyser
    || u.unitType == .neutralShakurasVespeneGeyser

end Sc2
