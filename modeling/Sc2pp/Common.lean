import Mathlib.Data.Rat.Floor

/-!
This module contains the data types every other part of the library shares: points, identifiers and
the `Unit` record. A `float` of the source is a rational number here, arithmetic on it is exact. An
`int` that only counts tiles is an `Int`. The server may send ids that the enumerations of unit types
and abilities do not list, so these are their `int`.
-/

namespace Sc2

structure Point3D where
  x : Rat
  y : Rat
  z : Rat
  deriving DecidableEq, Repr, Inhabited

structure Point2D where
  x : Rat := 0
  y : Rat := 0
  deriving DecidableEq, Repr, Inhabited

def Point2D.ofPoint3D (p : Point3D) : Point2D :=
  { x := p.x, y := p.y }

structure Point2DI where
  x : Int
  y : Int
  deriving DecidableEq, Repr, Inhabited

def Point2DI.eq (a b : Point2DI) : Bool :=
  -- `a.x` is tied with `b.x` and `a.y` with `b.y`, so this is not equality of points.
  (a.x, b.x) == (a.y, b.y)

def Point2DI.add (a b : Point2DI) : Point2DI :=
  ⟨a.x + b.x, a.y + b.y⟩

@[simp]
theorem Point2DI.eq_iff {a b : Point2DI} : a.eq b = true ↔ a.x = a.y ∧ b.x = b.y := by
  simp [Point2DI.eq]

@[simp]
theorem Point2DI.add_x (a b : Point2DI) : (a.add b).x = a.x + b.x := by
  rfl

@[simp]
theorem Point2DI.add_y (a b : Point2DI) : (a.add b).y = a.y + b.y := by
  rfl

theorem Point2DI.add_left_cancel {a b c : Point2DI} (h : a.add b = a.add c) : b = c := by
  simp only [add, mk.injEq] at h
  cases b
  cases c
  simp only [mk.injEq] at h ⊢
  omega

abbrev Tag := UInt64

structure UnitTypeId where
  val : Int32
  deriving DecidableEq, Repr, Inhabited

namespace UnitTypeId

def protossNexus : UnitTypeId := ⟨59⟩
def protossPylon : UnitTypeId := ⟨60⟩
def protossAssimilator : UnitTypeId := ⟨61⟩
def protossGateway : UnitTypeId := ⟨62⟩
def protossForge : UnitTypeId := ⟨63⟩
def protossFleetBeacon : UnitTypeId := ⟨64⟩
def protossTwilightCouncil : UnitTypeId := ⟨65⟩
def protossPhotonCannon : UnitTypeId := ⟨66⟩
def protossStargate : UnitTypeId := ⟨67⟩
def protossTemplarArchive : UnitTypeId := ⟨68⟩
def protossDarkShrine : UnitTypeId := ⟨69⟩
def protossRoboticsBay : UnitTypeId := ⟨70⟩
def protossRoboticsFacility : UnitTypeId := ⟨71⟩
def protossCyberneticsCore : UnitTypeId := ⟨72⟩
def protossStalker : UnitTypeId := ⟨74⟩
def protossProbe : UnitTypeId := ⟨84⟩
def protossWarpgate : UnitTypeId := ⟨133⟩
def protossPylonOvercharged : UnitTypeId := ⟨894⟩
def protossShieldBattery : UnitTypeId := ⟨1910⟩
def protossAssimilatorRich : UnitTypeId := ⟨1944⟩

def neutralMineralField : UnitTypeId := ⟨341⟩
def neutralMineralField750 : UnitTypeId := ⟨483⟩
def neutralPurifierMineralField : UnitTypeId := ⟨884⟩

def neutralVespeneGeyser : UnitTypeId := ⟨342⟩
def neutralRichVespeneGeyser : UnitTypeId := ⟨344⟩
def neutralProtossVespeneGeyser : UnitTypeId := ⟨608⟩
def neutralPurifierVespeneGeyser : UnitTypeId := ⟨880⟩
def neutralShakurasVespeneGeyser : UnitTypeId := ⟨881⟩

end UnitTypeId

structure AbilityId where
  val : Int32
  deriving DecidableEq, Repr, Inhabited

namespace AbilityId

def invalid : AbilityId := ⟨0⟩
def buildNexus : AbilityId := ⟨880⟩
def buildPylon : AbilityId := ⟨881⟩
def buildAssimilator : AbilityId := ⟨882⟩
def buildGateway : AbilityId := ⟨883⟩
def buildForge : AbilityId := ⟨884⟩
def buildFleetBeacon : AbilityId := ⟨885⟩
def buildTwilightCouncil : AbilityId := ⟨886⟩
def buildPhotonCannon : AbilityId := ⟨887⟩
def buildStargate : AbilityId := ⟨889⟩
def buildTemplarArchive : AbilityId := ⟨890⟩
def buildDarkShrine : AbilityId := ⟨891⟩
def buildRoboticsBay : AbilityId := ⟨892⟩
def buildRoboticsFacility : AbilityId := ⟨893⟩
def buildCyberneticsCore : AbilityId := ⟨894⟩
def buildShieldBattery : AbilityId := ⟨895⟩
def trainStalker : AbilityId := ⟨917⟩
def trainSentry : AbilityId := ⟨921⟩
def trainPhoenix : AbilityId := ⟨946⟩
def trainWarpPrism : AbilityId := ⟨976⟩
def trainObserver : AbilityId := ⟨977⟩
def trainImmortal : AbilityId := ⟨979⟩
def trainProbe : AbilityId := ⟨1006⟩
def morphWarpgate : AbilityId := ⟨1518⟩
def harvestGather : AbilityId := ⟨3666⟩

end AbilityId

inductive DisplayType where
  | visible
  | snapshot
  | hidden
  | placeholder
  deriving DecidableEq, Repr, Inhabited

inductive Alliance where
  | self
  | ally
  | neutral
  | enemy
  deriving DecidableEq, Repr, Inhabited

inductive CloakState where
  | cloakedUnknown
  | cloaked
  | cloakedDetected
  | notCloaked
  | cloakedAllied
  deriving DecidableEq, Repr, Inhabited

inductive Race where
  | noRace
  | terran
  | zerg
  | protoss
  | random
  deriving DecidableEq, Repr, Inhabited

inductive PlayerType where
  | participant
  | computer
  | observer
  deriving DecidableEq, Repr, Inhabited

inductive Difficulty where
  | veryEasy
  | easy
  | medium
  | mediumHard
  | hard
  | harder
  | veryHard
  | cheatVision
  | cheatMoney
  | cheatInsane
  deriving DecidableEq, Repr, Inhabited

structure RallyTarget where
  point : Point3D
  tag : Option Int64
  deriving DecidableEq, Repr

structure PassengerUnit where
  tag : Tag
  health : Rat
  healthMax : Rat
  shield : Rat
  shieldMax : Rat
  energy : Rat
  energyMax : Rat
  unitType : UInt32
  deriving DecidableEq, Repr

inductive OrderTarget where
  | point (p : Point3D)
  | tag (t : Tag)
  deriving DecidableEq, Repr

structure UnitOrder where
  abilityId : AbilityId
  target : OrderTarget
  progress : Rat
  deriving DecidableEq, Repr

structure Unit where
  displayType : DisplayType
  alliance : Alliance
  tag : Tag
  unitType : UnitTypeId
  owner : Int32
  pos : Point3D
  facing : Rat
  radius : Rat
  buildProgress : Rat
  cloak : CloakState
  buffIds : List UInt32
  detectRange : Rat
  radarRange : Rat
  isSelected : Bool
  isOnScreen : Bool
  isBlip : Bool
  isPowered : Bool
  isActive : Bool
  attackUpgradeLevel : Int32
  armorUpgradeLevel : Int32
  shieldUpgradeLevel : Int32
  health : Rat
  healthMax : Rat
  shield : Rat
  shieldMax : Rat
  energy : Rat
  energyMax : Rat
  mineralContents : Int32
  vespeneContents : Int32
  isFlying : Bool
  isBurrowed : Bool
  isHallucination : Bool
  orders : List UnitOrder
  addOnTag : Tag
  passengers : List PassengerUnit
  cargoSpaceTaken : Int32
  cargoSpaceMax : Int32
  assignedHarvesters : Int32
  idealHarvesters : Int32
  weaponCooldown : Rat
  engagedTargetTag : Tag
  buffDurationRemain : Int32
  buffDurationMax : Int32
  rallyTargets : List RallyTarget
  deriving DecidableEq, Repr

abbrev Units := List Unit

end Sc2
