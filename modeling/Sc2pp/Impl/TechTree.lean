import Sc2pp.Impl.Observation
import Sc2pp.Util.Reordering

/-!
This module contains the tech tree, which gives each type of unit its costs and its size. `findIf` is
`std::find_if` together with a dereference of the iterator it returns.

The tree is a hash map, the order its entries are visited in is given as a `Reordering`.
-/

namespace Sc2.Utils

structure UpgradeId where
  val : Int32
  deriving DecidableEq, Repr, Inhabited

def UpgradeId.warpgateResearch : UpgradeId := ⟨84⟩

structure BuildingTraits where
  race : Race
  mineralCost : Int32 := 0
  gasCost : Int32 := 0
  supplyCost : Int32 := 0
  buildTime : Int32 := 0
  buildAbility : AbilityId := .invalid
  warpAbility : AbilityId := .invalid
  requiredUnits : List UnitTypeId := []
  requiredUpgrades : List UpgradeId := []
  tileWidth : Int32 := 0
  deriving DecidableEq, Repr

abbrev TechTree := List (UnitTypeId × BuildingTraits)

def findIf {α : Type} (elements : List α) (pred : α → Bool) : Outcome α :=
  Outcome.elementAt elements (elements.findIdx pred)

def truncate (r : Rat) : Int :=
  if 0 ≤ r then r.floor else r.ceil

def toInt (r : Rat) : Outcome Int32 :=
  if -2 ^ 31 ≤ truncate r ∧ truncate r < 2 ^ 31 then
    pure (Int32.ofInt (truncate r))
  else
    throw .intOverflow

def plannedTree : TechTree := [
  (.protossPylon, { race := .protoss, buildAbility := .buildPylon }),
  (.protossNexus, { race := .protoss, buildAbility := .buildNexus }),
  (.protossAssimilator, { race := .protoss, buildAbility := .buildAssimilator }),
  (.protossCyberneticsCore, {
    race := .protoss
    buildAbility := .buildCyberneticsCore
    requiredUnits := [.protossGateway, .protossWarpgate]
  }),
  (.protossDarkShrine, {
    race := .protoss
    buildAbility := .buildDarkShrine
    requiredUnits := [.protossTwilightCouncil]
  }),
  (.protossFleetBeacon, {
    race := .protoss
    buildAbility := .buildFleetBeacon
    requiredUnits := [.protossStargate]
  }),
  (.protossForge, {
    race := .protoss
    buildAbility := .buildForge
    requiredUnits := [.protossNexus]
  }),
  (.protossGateway, {
    race := .protoss
    buildAbility := .buildGateway
    requiredUnits := [.protossNexus]
  }),
  (.protossStargate, {
    race := .protoss
    buildAbility := .buildStargate
    requiredUnits := [.protossCyberneticsCore]
  }),
  (.protossPhotonCannon, {
    race := .protoss
    buildAbility := .buildPhotonCannon
    requiredUnits := [.protossForge]
  }),
  (.protossRoboticsBay, {
    race := .protoss
    buildAbility := .buildRoboticsBay
    requiredUnits := [.protossRoboticsFacility]
  }),
  (.protossRoboticsFacility, {
    race := .protoss
    buildAbility := .buildRoboticsFacility
    requiredUnits := [.protossCyberneticsCore]
  }),
  (.protossTemplarArchive, {
    race := .protoss
    buildAbility := .buildTemplarArchive
    requiredUnits := [.protossTwilightCouncil]
  }),
  (.protossTwilightCouncil, {
    race := .protoss
    buildAbility := .buildTwilightCouncil
    requiredUnits := [.protossCyberneticsCore]
  }),
  (.protossWarpgate, {
    race := .protoss
    buildAbility := .morphWarpgate
    requiredUnits := [.protossGateway]
    requiredUpgrades := [.warpgateResearch]
  }),
  (.protossProbe, {
    race := .protoss
    supplyCost := 1
    buildAbility := .trainProbe
    requiredUnits := [.protossNexus]
  }),
  (.protossStalker, {
    race := .protoss
    supplyCost := 1
    buildAbility := .trainStalker
    requiredUnits := [.protossNexus]
  })
]

def isUnit (id : UnitTypeId) (u : Proto.UnitTypeData) : Bool :=
  u.unitId.getD 0 == id.val.toUInt32

def isAbility (id : AbilityId) (a : Proto.AbilityData) : Bool :=
  a.abilityId.getD 0 == id.val.toUInt32

def fillTraits (obs : Observation) (id : UnitTypeId) (traits : BuildingTraits)
    : Outcome BuildingTraits := do
  let data ← findIf obs.unitTypeData (isUnit id)
  let ability ← findIf obs.abilityData (isAbility traits.buildAbility)
  let tileWidth ← toInt (ability.footprintRadius.getD 0 * 2)
  return {
    traits with
    mineralCost := (data.mineralCost.getD 0).toInt32
    gasCost := (data.vespeneCost.getD 0).toInt32
    tileWidth := tileWidth
  }

def fillEntry (obs : Observation) (entry : UnitTypeId × BuildingTraits)
    : Outcome (UnitTypeId × BuildingTraits) := do
  let traits ← fillTraits obs entry.1 entry.2
  return (entry.1, traits)

def makeTechTree (obs : Observation) (order : Reordering (UnitTypeId × BuildingTraits))
    : Outcome TechTree :=
  (order.apply plannedTree).mapM (fillEntry obs)

end Sc2.Utils
