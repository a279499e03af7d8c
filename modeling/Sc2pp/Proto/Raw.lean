import Sc2pp.Common

/-!
This module contains the messages of the raw interface: bitmaps, what an observation says about units,
and the actions a client sends and sees echoed.

A field that can be absent is an `Option` and its accessor falls back to the default value of its
type, which for an enumeration is its first value. Of the members of a `oneof` at most one is set, so
a `oneof` is an `Option` of an inductive type with a constructor for each member. Members this
library never looks into are left out, or are `other` where they share a `oneof`.
-/

namespace Sc2.Proto

structure Point2D where
  x : Option Rat := none
  y : Option Rat := none
  deriving DecidableEq, Repr, Inhabited

structure Point where
  x : Option Rat := none
  y : Option Rat := none
  z : Option Rat := none
  deriving DecidableEq, Repr, Inhabited

structure Size2DI where
  x : Option Int32 := none
  y : Option Int32 := none
  deriving DecidableEq, Repr, Inhabited

structure ImageData where
  bitsPerPixel : Option Int32 := none
  size : Option Size2DI := none
  data : List UInt8 := []
  deriving DecidableEq, Repr, Inhabited

def ImageData.sizeX (img : ImageData) : Int :=
  ((img.size.getD {}).x.getD 0).toInt

def ImageData.sizeY (img : ImageData) : Int :=
  ((img.size.getD {}).y.getD 0).toInt

structure StartRaw where
  mapSize : Option Size2DI := none
  pathingGrid : Option ImageData := none
  terrainHeight : Option ImageData := none
  placementGrid : Option ImageData := none
  startLocations : List Point2D := []
  deriving DecidableEq, Repr, Inhabited

inductive UnitOrder.Target where
  | targetWorldSpacePos (p : Point)
  | targetUnitTag (t : Tag)
  deriving DecidableEq, Repr

structure UnitOrder where
  abilityId : Option UInt32 := none
  target : Option UnitOrder.Target := none
  progress : Option Rat := none
  deriving DecidableEq, Repr

structure PassengerUnit where
  tag : Option Tag := none
  health : Option Rat := none
  healthMax : Option Rat := none
  shield : Option Rat := none
  shieldMax : Option Rat := none
  energy : Option Rat := none
  energyMax : Option Rat := none
  unitType : Option UInt32 := none
  deriving DecidableEq, Repr

structure RallyTarget where
  point : Option Point := none
  tag : Option Tag := none
  deriving DecidableEq, Repr

structure Unit where
  displayType : Option DisplayType := none
  alliance : Option Alliance := none
  tag : Option Tag := none
  unitType : Option UInt32 := none
  owner : Option Int32 := none
  pos : Option Point := none
  facing : Option Rat := none
  radius : Option Rat := none
  buildProgress : Option Rat := none
  cloak : Option CloakState := none
  buffIds : List UInt32 := []
  detectRange : Option Rat := none
  radarRange : Option Rat := none
  isSelected : Option Bool := none
  isOnScreen : Option Bool := none
  isBlip : Option Bool := none
  isPowered : Option Bool := none
  isActive : Option Bool := none
  attackUpgradeLevel : Option Int32 := none
  armorUpgradeLevel : Option Int32 := none
  shieldUpgradeLevel : Option Int32 := none
  health : Option Rat := none
  healthMax : Option Rat := none
  shield : Option Rat := none
  shieldMax : Option Rat := none
  energy : Option Rat := none
  energyMax : Option Rat := none
  mineralContents : Option Int32 := none
  vespeneContents : Option Int32 := none
  isFlying : Option Bool := none
  isBurrowed : Option Bool := none
  isHallucination : Option Bool := none
  orders : List UnitOrder := []
  addOnTag : Option Tag := none
  passengers : List PassengerUnit := []
  cargoSpaceTaken : Option Int32 := none
  cargoSpaceMax : Option Int32 := none
  assignedHarvesters : Option Int32 := none
  idealHarvesters : Option Int32 := none
  weaponCooldown : Option Rat := none
  engagedTargetTag : Option Tag := none
  buffDurationRemain : Option Int32 := none
  buffDurationMax : Option Int32 := none
  rallyTargets : List RallyTarget := []
  deriving Repr

inductive ActionRawUnitCommand.Target where
  | targetWorldSpacePos (p : Point2D)
  | targetUnitTag (t : Tag)
  deriving DecidableEq, Repr

structure ActionRawUnitCommand where
  abilityId : Option Int32 := none
  target : Option ActionRawUnitCommand.Target := none
  unitTags : List Tag := []
  queueCommand : Option Bool := none
  deriving DecidableEq, Repr

namespace ActionRawUnitCommand

def targetWorldSpacePos (command : ActionRawUnitCommand) : Point2D :=
  match command.target with
  | some (.targetWorldSpacePos p) => p
  | _ => {}

def targetUnitTag (command : ActionRawUnitCommand) : Tag :=
  match command.target with
  | some (.targetUnitTag t) => t
  | _ => 0

end ActionRawUnitCommand

structure ActionRawToggleAutocast where
  abilityId : Option Int32 := none
  unitTags : List Tag := []
  deriving DecidableEq, Repr

inductive ActionRaw where
  | unitCommand (command : ActionRawUnitCommand)
  | toggleAutocast (autocast : ActionRawToggleAutocast)
  | other
  deriving DecidableEq, Repr

namespace ActionRaw

def hasUnitCommand : ActionRaw → Bool
  | unitCommand _ => true
  | _ => false

def getUnitCommand : ActionRaw → ActionRawUnitCommand
  | unitCommand command => command
  | _ => {}

end ActionRaw

inductive ActionChat.Channel where
  | broadcast
  | team
  deriving DecidableEq, Repr, Inhabited

structure ActionChat where
  channel : Option ActionChat.Channel := none
  message : Option String := none
  deriving DecidableEq, Repr

structure Action where
  actionRaw : Option ActionRaw := none
  actionChat : Option ActionChat := none
  deriving DecidableEq, Repr, Inhabited

structure RequestAction where
  actions : List Action := []
  deriving DecidableEq, Repr, Inhabited

structure ActionResult where
  val : Int32
  deriving DecidableEq, Repr

def ActionResult.success : ActionResult := ⟨1⟩

structure ActionError where
  unitTag : Option Tag := none
  abilityId : Option UInt64 := none
  result : Option ActionResult := none
  deriving DecidableEq, Repr

structure PlayerResult where
  playerId : Option UInt32 := none
  result : Option Int32 := none
  deriving DecidableEq, Repr

structure ObservationRaw where
  units : List Unit := []
  deriving Repr

structure PlayerCommon where
  foodCap : Option UInt32 := none
  foodUsed : Option UInt32 := none
  deriving Repr, Inhabited

structure Observation where
  playerCommon : Option PlayerCommon := none
  rawData : Option ObservationRaw := none
  deriving Repr, Inhabited

structure ResponseObservation where
  actions : List Action := []
  actionErrors : List ActionError := []
  observation : Option Observation := none
  playerResult : List PlayerResult := []
  deriving Repr, Inhabited

def ResponseObservation.units (response : ResponseObservation) : List Unit :=
  match response.observation.bind Observation.rawData with
  | some raw => raw.units
  | none => []

def ResponseObservation.ofUnits (units : List Unit) : ResponseObservation :=
  { observation := some { rawData := some { units := units } } }

end Sc2.Proto
