import Sc2pp.Util.Fault
import Sc2pp.Proto.Raw

/-!
This module contains the conversions from messages to the library's own types. An overload of
`from_proto` is found under the message it converts.
-/

namespace Sc2

inductive CommandTarget where
  | point (p : Point2D)
  | tag (t : Tag)
  deriving DecidableEq, Repr

structure UnitCommand where
  abilityId : Int32
  target : CommandTarget
  deriving DecidableEq, Repr

structure ActionError where
  unitTag : Tag
  abilityId : UInt64
  result : Proto.ActionResult
  resStr : String
  deriving DecidableEq, Repr

namespace Proto

def Point2D.fromProto (input : Proto.Point2D) : Sc2.Point2D :=
  { x := input.x.getD 0, y := input.y.getD 0 }

def ActionRawUnitCommand.fromProto (command : ActionRawUnitCommand) : UnitCommand :=
  let result : UnitCommand := { abilityId := command.abilityId.getD 0, target := .point {} }
  match command.target with
  | some (.targetUnitTag t) =>
    let result := { result with target := .tag t }
    -- The case has no `break`, control falls through into the next one.
    { result with target := .point command.targetWorldSpacePos.fromProto }
  | some (.targetWorldSpacePos _) =>
    { result with target := .point command.targetWorldSpacePos.fromProto }
  | none => result

def ActionError.fromProto (x : Proto.ActionError) : Sc2.ActionError where
  unitTag := x.unitTag.getD 0
  abilityId := x.abilityId.getD 0
  result := x.result.getD .success
  -- The name of the descriptor, not of the value.
  resStr := "SC2APIProtocol.ActionResult"

def Point.fromProto (x : Proto.Point) : Point3D :=
  { x := x.x.getD 0, y := x.y.getD 0, z := x.z.getD 0 }

def UnitOrder.fromProto (x : Proto.UnitOrder) : Outcome Sc2.UnitOrder := do
  Outcome.assertThat (x.abilityId.getD 0 != 0)
  return {
    abilityId := ⟨(x.abilityId.getD 0).toInt32⟩
    target :=
      match x.target with
      | some (.targetWorldSpacePos p) => .point p.fromProto
      | some (.targetUnitTag t) => .tag t
      | none => .tag 0
    -- The source names no initializer for this member.
    progress := 0
  }

def PassengerUnit.fromProto (x : Proto.PassengerUnit) : Sc2.PassengerUnit where
  tag := x.tag.getD 0
  health := x.health.getD 0
  healthMax := x.healthMax.getD 0
  shield := x.shield.getD (-1)
  shieldMax := x.shieldMax.getD (-1)
  energy := x.energy.getD (-1)
  -- The source tests the value here where the other members test presence.
  energyMax := if x.energyMax.getD 0 != 0 then x.energyMax.getD 0 else -1
  unitType := x.unitType.getD (-1)

def RallyTarget.fromProto (x : Proto.RallyTarget) : Sc2.RallyTarget where
  point := (x.point.getD {}).fromProto
  tag := x.tag.map UInt64.toInt64

def Unit.withOrders (x : Proto.Unit) (orders : List Sc2.UnitOrder) : Sc2.Unit where
  displayType := x.displayType.getD default
  alliance := x.alliance.getD default
  tag := x.tag.getD 0
  unitType := ⟨(x.unitType.getD 0).toInt32⟩
  owner := x.owner.getD 0
  pos := (x.pos.getD {}).fromProto
  facing := x.facing.getD 0
  radius := x.radius.getD 0
  buildProgress := x.buildProgress.getD 0
  cloak := x.cloak.getD default
  buffIds := x.buffIds
  detectRange := x.detectRange.getD 0
  radarRange := x.radarRange.getD 0
  isSelected := x.isSelected.getD false
  isOnScreen := x.isOnScreen.getD false
  isBlip := x.isBlip.getD false
  isPowered := x.isPowered.getD false
  isActive := x.isActive.getD false
  attackUpgradeLevel := x.attackUpgradeLevel.getD 0
  armorUpgradeLevel := x.armorUpgradeLevel.getD 0
  shieldUpgradeLevel := x.shieldUpgradeLevel.getD 0
  health := x.health.getD 0
  healthMax := x.healthMax.getD 0
  shield := x.shield.getD 0
  shieldMax := x.shieldMax.getD 0
  energy := x.energy.getD 0
  energyMax := x.energyMax.getD 0
  mineralContents := x.mineralContents.getD 0
  vespeneContents := x.vespeneContents.getD 0
  isFlying := x.isFlying.getD false
  isBurrowed := x.isBurrowed.getD false
  isHallucination := x.isHallucination.getD false
  orders := orders
  addOnTag := x.addOnTag.getD (-1)
  passengers := x.passengers.map PassengerUnit.fromProto
  cargoSpaceTaken := x.cargoSpaceTaken.getD 0
  cargoSpaceMax := x.cargoSpaceMax.getD 0
  assignedHarvesters := x.assignedHarvesters.getD (-1)
  idealHarvesters := x.idealHarvesters.getD (-1)
  weaponCooldown := x.weaponCooldown.getD (-1)
  engagedTargetTag := x.engagedTargetTag.getD (-1)
  buffDurationRemain := x.buffDurationRemain.getD (-1)
  buffDurationMax := x.buffDurationMax.getD (-1)
  rallyTargets := x.rallyTargets.map RallyTarget.fromProto

def Unit.fromProto (x : Proto.Unit) : Outcome Sc2.Unit := do
  let orders ← x.orders.mapM UnitOrder.fromProto
  return x.withOrders orders

def ResponseObservation.OrdersNamed (response : ResponseObservation) : Prop :=
  ∀ x ∈ response.units, ∀ o ∈ x.orders, o.abilityId.getD 0 ≠ 0

end Proto

def echoedUnitCommands (actions : List Proto.Action) : List UnitCommand :=
  actions
    |>.filterMap Proto.Action.actionRaw
    |>.filter Proto.ActionRaw.hasUnitCommand
    |>.map (fun raw => raw.getUnitCommand.fromProto)

def convertObservation (response : Proto.ResponseObservation)
    : Outcome (List Unit × List UnitCommand × List ActionError) := do
  let actionsRaw := echoedUnitCommands response.actions
  let units ← response.units.mapM Proto.Unit.fromProto
  let errors := response.actionErrors.map Proto.ActionError.fromProto
  return (units, actionsRaw, errors)

end Sc2
