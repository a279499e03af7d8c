import Sc2pp.Lemmas.Converters

/-!
This module contains which contents of a unit's message the converted unit has. A field of the
message is `Kept` when its value, if it is set, is the value in the record. Numbers are compared by
their values: a negative number is never that of an unsigned field.
-/

namespace Sc2

def Kept {α : Type} (field : Option α) (value : α) : Prop :=
  ∀ v, field = some v → value = v

@[simp]
theorem kept_getD {α : Type} (field : Option α) (default : α)
    : Kept field (field.getD default) := by
  intro v h
  rw [h, Option.getD_some]

def KeptNat {α : Type} (toNat : α → Nat) (field : Option α) (value : Int) : Prop :=
  ∀ v, field = some v → value = toNat v

theorem toInt_eq_toNat_iff {w : Nat} (x : BitVec w)
    : x.toInt = x.toNat ↔ 2 * x.toNat < 2 ^ w := by
  have hlt := x.isLt
  rw [BitVec.toInt_eq_toNat_cond]
  split
  . omega
  . omega

theorem toInt_toInt32 (v : UInt32) : v.toInt32.toInt = v.toNat ↔ v.toNat < 2 ^ 31 := by
  change v.toBitVec.toInt = v.toBitVec.toNat ↔ v.toBitVec.toNat < 2 ^ 31
  rw [toInt_eq_toNat_iff]
  omega

theorem toInt_toInt64 (v : UInt64) : v.toInt64.toInt = v.toNat ↔ v.toNat < 2 ^ 63 := by
  change v.toBitVec.toInt = v.toBitVec.toNat ↔ v.toBitVec.toNat < 2 ^ 63
  rw [toInt_eq_toNat_iff]
  omega

theorem keptNat_toInt32 (field : Option UInt32)
    : KeptNat UInt32.toNat field (field.getD 0).toInt32.toInt
        ↔
      ∀ v, field = some v → v.toNat < 2 ^ 31 := by
  cases field with
  | none => simp [KeptNat]
  | some v => simp [KeptNat, toInt_toInt32]

namespace Proto

structure Point.Keeps (p : Proto.Point) (point : Point3D) : Prop where
  x : Kept p.x point.x
  y : Kept p.y point.y
  z : Kept p.z point.z

def UnitOrder.KeepsTarget (x : Proto.UnitOrder) (target : OrderTarget) : Prop :=
  match x.target with
  | none => True
  | some (.targetWorldSpacePos p) => ∃ point, target = .point point ∧ p.Keeps point
  | some (.targetUnitTag t) => target = .tag t

structure UnitOrder.Keeps (x : Proto.UnitOrder) (order : Sc2.UnitOrder) : Prop where
  abilityId : KeptNat UInt32.toNat x.abilityId order.abilityId.val.toInt
  target : x.KeepsTarget order.target
  progress : Kept x.progress order.progress

structure PassengerUnit.Keeps (x : Proto.PassengerUnit) (passenger : Sc2.PassengerUnit)
    : Prop where
  tag : Kept x.tag passenger.tag
  health : Kept x.health passenger.health
  healthMax : Kept x.healthMax passenger.healthMax
  shield : Kept x.shield passenger.shield
  shieldMax : Kept x.shieldMax passenger.shieldMax
  energy : Kept x.energy passenger.energy
  energyMax : Kept x.energyMax passenger.energyMax
  unitType : Kept x.unitType passenger.unitType

structure RallyTarget.Keeps (x : Proto.RallyTarget) (rallyTarget : Sc2.RallyTarget) : Prop where
  point : ∀ p, x.point = some p → p.Keeps rallyTarget.point
  tag : ∀ t, x.tag = some t → ∃ tag, rallyTarget.tag = some tag ∧ tag.toInt = t.toNat

structure Unit.Keeps (x : Proto.Unit) (u : Sc2.Unit) : Prop where
  displayType : Kept x.displayType u.displayType
  alliance : Kept x.alliance u.alliance
  tag : Kept x.tag u.tag
  unitType : KeptNat UInt32.toNat x.unitType u.unitType.val.toInt
  owner : Kept x.owner u.owner
  pos : ∀ p, x.pos = some p → p.Keeps u.pos
  facing : Kept x.facing u.facing
  radius : Kept x.radius u.radius
  buildProgress : Kept x.buildProgress u.buildProgress
  cloak : Kept x.cloak u.cloak
  buffIds : u.buffIds = x.buffIds
  detectRange : Kept x.detectRange u.detectRange
  radarRange : Kept x.radarRange u.radarRange
  isSelected : Kept x.isSelected u.isSelected
  isOnScreen : Kept x.isOnScreen u.isOnScreen
  isBlip : Kept x.isBlip u.isBlip
  isPowered : Kept x.isPowered u.isPowered
  isActive : Kept x.isActive u.isActive
  attackUpgradeLevel : Kept x.attackUpgradeLevel u.attackUpgradeLevel
  armorUpgradeLevel : Kept x.armorUpgradeLevel u.armorUpgradeLevel
  shieldUpgradeLevel : Kept x.shieldUpgradeLevel u.shieldUpgradeLevel
  health : Kept x.health u.health
  healthMax : Kept x.healthMax u.healthMax
  shield : Kept x.shield u.shield
  shieldMax : Kept x.shieldMax u.shieldMax
  energy : Kept x.energy u.energy
  energyMax : Kept x.energyMax u.energyMax
  mineralContents : Kept x.mineralContents u.mineralContents
  vespeneContents : Kept x.vespeneContents u.vespeneContents
  isFlying : Kept x.isFlying u.isFlying
  isBurrowed : Kept x.isBurrowed u.isBurrowed
  isHallucination : Kept x.isHallucination u.isHallucination
  orders : List.Forall₂ UnitOrder.Keeps x.orders u.orders
  addOnTag : Kept x.addOnTag u.addOnTag
  passengers : List.Forall₂ PassengerUnit.Keeps x.passengers u.passengers
  cargoSpaceTaken : Kept x.cargoSpaceTaken u.cargoSpaceTaken
  cargoSpaceMax : Kept x.cargoSpaceMax u.cargoSpaceMax
  assignedHarvesters : Kept x.assignedHarvesters u.assignedHarvesters
  idealHarvesters : Kept x.idealHarvesters u.idealHarvesters
  weaponCooldown : Kept x.weaponCooldown u.weaponCooldown
  engagedTargetTag : Kept x.engagedTargetTag u.engagedTargetTag
  buffDurationRemain : Kept x.buffDurationRemain u.buffDurationRemain
  buffDurationMax : Kept x.buffDurationMax u.buffDurationMax
  rallyTargets : List.Forall₂ RallyTarget.Keeps x.rallyTargets u.rallyTargets

theorem Point.keeps_fromProto (p : Proto.Point) : p.Keeps p.fromProto where
  x := kept_getD p.x 0
  y := kept_getD p.y 0
  z := kept_getD p.z 0

theorem Point.keeps_of_eq {field : Option Proto.Point} {p : Proto.Point} (h : field = some p)
    : p.Keeps (field.getD {}).fromProto := by
  rw [h]
  apply Point.keeps_fromProto

theorem RallyTarget.keeps_iff {x : Proto.RallyTarget}
    : x.Keeps x.fromProto ↔ ∀ t, x.tag = some t → t.toNat < 2 ^ 63 := by
  constructor
  . intro h t ht
    rcases h.tag t ht with ⟨tag, htag, hvalue⟩
    simp only [RallyTarget.fromProto, ht, Option.map_some, Option.some.injEq] at htag
    rwa [← htag, toInt_toInt64] at hvalue
  . intro h
    constructor
    . intro p hp
      apply Point.keeps_of_eq hp
    . intro t ht
      refine ⟨t.toInt64, ?_, (toInt_toInt64 t).mpr (h t ht)⟩
      simp only [RallyTarget.fromProto, ht, Option.map_some]

theorem PassengerUnit.kept_energyMax_iff {field : Option Rat}
    : Kept field (if field.getD 0 != 0 then field.getD 0 else -1) ↔ field ≠ some 0 := by
  cases field with
  | none => simp [Kept]
  | some v => by_cases hv : v = 0 <;> simp [Kept, hv]

theorem PassengerUnit.keeps_iff {x : Proto.PassengerUnit}
    : x.Keeps x.fromProto ↔ x.energyMax ≠ some 0 := by
  rw [← PassengerUnit.kept_energyMax_iff]
  constructor
  . intro h
    exact h.energyMax
  . intro h
    constructor
    . apply kept_getD
    . apply kept_getD
    . apply kept_getD
    . apply kept_getD
    . apply kept_getD
    . apply kept_getD
    . exact h
    . apply kept_getD

def UnitOrder.converted (x : Proto.UnitOrder) : Sc2.UnitOrder where
  abilityId := ⟨(x.abilityId.getD 0).toInt32⟩
  target :=
    match x.target with
    | some (.targetWorldSpacePos p) => .point p.fromProto
    | some (.targetUnitTag t) => .tag t
    | none => .tag 0
  progress := 0

theorem UnitOrder.fromProto_of_ne {x : Proto.UnitOrder} (h : x.abilityId.getD 0 ≠ 0)
    : x.fromProto = .ok x.converted := by
  simp [UnitOrder.fromProto, Outcome.assertThat, h]
  rfl

theorem UnitOrder.keepsTarget_converted (x : Proto.UnitOrder)
    : x.KeepsTarget x.converted.target := by
  unfold UnitOrder.KeepsTarget UnitOrder.converted
  split
  . trivial
  . next p htarget => exact ⟨p.fromProto, by simp only [htarget], Point.keeps_fromProto p⟩
  . next t htarget => simp only [htarget]

theorem UnitOrder.keeps_iff {x : Proto.UnitOrder}
    : x.Keeps x.converted
        ↔
      (∀ v, x.abilityId = some v → v.toNat < 2 ^ 31) ∧ ∀ v, x.progress = some v → v = 0 := by
  rw [← keptNat_toInt32]
  constructor
  . intro h
    refine ⟨h.abilityId, ?_⟩
    intro v hv
    exact (h.progress v hv).symm
  . intro h
    refine ⟨h.1, UnitOrder.keepsTarget_converted x, ?_⟩
    intro v hv
    exact (h.2 v hv).symm

theorem Unit.keeps_iff {x : Proto.Unit} {orders : List Sc2.UnitOrder}
    : x.Keeps (x.withOrders orders)
        ↔
      List.Forall₂ UnitOrder.Keeps x.orders orders ∧
        List.Forall₂ PassengerUnit.Keeps x.passengers (x.passengers.map PassengerUnit.fromProto) ∧
        List.Forall₂ RallyTarget.Keeps x.rallyTargets (x.rallyTargets.map RallyTarget.fromProto) ∧
        ∀ v, x.unitType = some v → v.toNat < 2 ^ 31 := by
  rw [← keptNat_toInt32]
  constructor
  . intro h
    exact ⟨h.orders, h.passengers, h.rallyTargets, h.unitType⟩
  . intro h
    rcases h with ⟨horders, hpassengers, hrallyTargets, hunitType⟩
    constructor
    case unitType => exact hunitType
    case pos =>
      intro p hp
      apply Point.keeps_of_eq hp
    case buffIds => rfl
    case orders => exact horders
    case passengers => exact hpassengers
    case rallyTargets => exact hrallyTargets
    -- Every other field is read by its getter, or with a default where it is not set.
    all_goals apply kept_getD

theorem Unit.fromProto_of_ne {x : Proto.Unit} (h : ∀ o ∈ x.orders, o.abilityId.getD 0 ≠ 0)
    : x.fromProto = .ok (x.withOrders (x.orders.map UnitOrder.converted)) := by
  have horders : x.orders.mapM UnitOrder.fromProto = .ok (x.orders.map UnitOrder.converted) := by
    rw [Outcome.mapM_eq_ok, List.forall₂_map_right_iff, List.forall₂_same]
    intro o ho
    apply UnitOrder.fromProto_of_ne (h o ho)
  unfold Unit.fromProto
  rw [horders, Outcome.bind_ok, Outcome.pure_eq_ok]

theorem Unit.fromProto_keeps_iff {x : Proto.Unit} (h : ∀ o ∈ x.orders, o.abilityId.getD 0 ≠ 0)
    : (∃ u, x.fromProto = .ok u ∧ x.Keeps u)
        ↔
      (∀ o ∈ x.orders, (∀ v, o.abilityId = some v → v.toNat < 2 ^ 31) ∧
        ∀ v, o.progress = some v → v = 0) ∧
      (∀ p ∈ x.passengers, p.energyMax ≠ some 0) ∧
      (∀ r ∈ x.rallyTargets, ∀ t, r.tag = some t → t.toNat < 2 ^ 63) ∧
      ∀ v, x.unitType = some v → v.toNat < 2 ^ 31 := by
  rw [Unit.fromProto_of_ne h]
  simp only [Except.ok.injEq, exists_eq_left', Unit.keeps_iff, List.forall₂_map_right_iff,
    List.forall₂_same, UnitOrder.keeps_iff, PassengerUnit.keeps_iff, RallyTarget.keeps_iff]

def carrier : Proto.Unit where
  tag := some 7
  orders := [{ abilityId := some 23, target := some (.targetUnitTag 9), progress := some 0 }]
  passengers := [{ tag := some 8, energy := some 0, energyMax := some 50 }]
  rallyTargets := [{ point := some { x := some 1, y := some 2, z := some 0 }, tag := some 9 }]

theorem Unit.fromProto_keeps_carrier : ∃ u, carrier.fromProto = .ok u ∧ carrier.Keeps u := by
  rw [Unit.fromProto_keeps_iff (by decide)]
  simp [carrier]

def trainer : Proto.Unit where
  tag := some 7
  orders := [{ abilityId := some 1006, progress := some (1 / 2) }]

theorem Unit.fromProto_loses_progress
    : ¬ ∀ x : Proto.Unit, (∀ o ∈ x.orders, o.abilityId.getD 0 ≠ 0) →
        ∃ u, x.fromProto = .ok u ∧ x.Keeps u := by
  intro h
  rcases h trainer (by decide) with ⟨u, hu, hkeeps⟩
  rw [Unit.fromProto_of_ne (by decide), Except.ok.injEq] at hu
  subst hu
  have horder := List.forall₂_same.mp (List.forall₂_map_right_iff.mp hkeeps.orders) _
    List.mem_cons_self
  have hprogress := (UnitOrder.keeps_iff.mp horder).2 _ rfl
  exact absurd hprogress (by norm_num)

end Proto

end Sc2
