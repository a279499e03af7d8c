import Sc2pp.Impl.TechTree
import Sc2pp.Lemmas.UnitRecord
import Mathlib.Data.List.Nodup

/-!
This module contains when the tech tree can be made: `Faithful` says what it shall be, `Complete` when
it is. Costs and widths are compared by their values.
-/

namespace Sc2.Utils

theorem findIf_eq_ok {α : Type} {elements : List α} {pred : α → Bool} {x : α}
    : findIf elements pred = .ok x ↔ elements.find? pred = some x := by
  unfold findIf
  rw [Outcome.elementAt_eq_ok, List.find?_eq_getElem?_findIdx]

theorem findIf_ne_exception {α : Type} {elements : List α} {pred : α → Bool} {what : String}
    : findIf elements pred ≠ .error (.exception what) := by
  unfold findIf Outcome.elementAt
  split <;> simp

theorem toInt_eq_ok {r : Rat} {i : Int32}
    : toInt r = .ok i
        ↔
      (-2 ^ 31 ≤ truncate r ∧ truncate r < 2 ^ 31) ∧ i = Int32.ofInt (truncate r) := by
  unfold toInt
  split
  . next h =>
    rw [Outcome.pure_eq_ok, Except.ok.injEq, eq_comm]
    apply (and_iff_right h).symm
  . next h =>
    constructor
    . intro hok
      cases hok
    . intro hok
      exact absurd hok.1 h

theorem toInt_ne_exception {r : Rat} {what : String} : toInt r ≠ .error (.exception what) := by
  unfold toInt
  split <;> simp

-- The records an entry of the tree is filled from.
structure Found (obs : Observation) (id : UnitTypeId) (traits : BuildingTraits)
    (data : Proto.UnitTypeData) (ability : Proto.AbilityData) : Prop where
  data : obs.unitTypeData.find? (isUnit id) = some data
  ability : obs.abilityData.find? (isAbility traits.buildAbility) = some ability

structure Fits (data : Proto.UnitTypeData) (ability : Proto.AbilityData) : Prop where
  mineralCost : (data.mineralCost.getD 0).toNat < 2 ^ 31
  gasCost : (data.vespeneCost.getD 0).toNat < 2 ^ 31
  tileWidth : -2 ^ 31 ≤ truncate (ability.footprintRadius.getD 0 * 2) ∧
    truncate (ability.footprintRadius.getD 0 * 2) < 2 ^ 31

structure Filled (traits : BuildingTraits) (data : Proto.UnitTypeData) (ability : Proto.AbilityData)
    (filled : BuildingTraits) : Prop where
  mineralCost : filled.mineralCost.toInt = (data.mineralCost.getD 0).toNat
  gasCost : filled.gasCost.toInt = (data.vespeneCost.getD 0).toNat
  tileWidth : filled.tileWidth.toInt = truncate (ability.footprintRadius.getD 0 * 2)
  rest : filled = {
    traits with
    mineralCost := filled.mineralCost
    gasCost := filled.gasCost
    tileWidth := filled.tileWidth
  }

variable {obs : Observation} {id : UnitTypeId} {traits filled : BuildingTraits}

theorem fillTraits_eq_ok
    : fillTraits obs id traits = .ok filled
        ↔
      ∃ data ability, Found obs id traits data ability ∧
        (-2 ^ 31 ≤ truncate (ability.footprintRadius.getD 0 * 2) ∧
          truncate (ability.footprintRadius.getD 0 * 2) < 2 ^ 31) ∧
        filled = {
          traits with
          mineralCost := (data.mineralCost.getD 0).toInt32
          gasCost := (data.vespeneCost.getD 0).toInt32
          tileWidth := Int32.ofInt (truncate (ability.footprintRadius.getD 0 * 2))
        } := by
  simp only [fillTraits, Outcome.bind_eq_ok, findIf_eq_ok, toInt_eq_ok, Outcome.pure_eq_ok,
    Except.ok.injEq]
  constructor
  . intro h
    rcases h with ⟨data, hdata, ability, hability, width, ⟨hwidth, rfl⟩, rfl⟩
    exact ⟨data, ability, ⟨hdata, hability⟩, hwidth, rfl⟩
  . intro h
    rcases h with ⟨data, ability, hfound, hwidth, rfl⟩
    exact ⟨data, hfound.data, ability, hfound.ability, _, ⟨hwidth, rfl⟩, rfl⟩

theorem fillTraits_ne_exception {what : String}
    : fillTraits obs id traits ≠ .error (.exception what) := by
  unfold fillTraits
  apply Outcome.bind_ne_error findIf_ne_exception
  intro data
  apply Outcome.bind_ne_error findIf_ne_exception
  intro ability
  apply Outcome.bind_ne_error toInt_ne_exception
  intro width h
  cases h

theorem filled_of_fits {data : Proto.UnitTypeData} {ability : Proto.AbilityData}
    (hfound : Found obs id traits data ability) (hfits : Fits data ability)
    : ∃ filled, fillTraits obs id traits = .ok filled ∧ Filled traits data ability filled := by
  refine ⟨_, fillTraits_eq_ok.mpr ⟨data, ability, hfound, hfits.tileWidth, rfl⟩, ?_, ?_, ?_, rfl⟩
  . apply (toInt_toInt32 _).mpr hfits.mineralCost
  . apply (toInt_toInt32 _).mpr hfits.gasCost
  . apply Int32.toInt_ofInt_of_le
    . exact hfits.tileWidth.1
    . exact hfits.tileWidth.2

theorem fits_of_filled {data : Proto.UnitTypeData} {ability : Proto.AbilityData}
    (hfound : Found obs id traits data ability) (hfill : fillTraits obs id traits = .ok filled)
    (hfilled : Filled traits data ability filled) : Fits data ability := by
  rcases fillTraits_eq_ok.mp hfill with ⟨data', ability', hfound', hwidth, rfl⟩
  have hdata := hfound.data.symm.trans hfound'.data
  have hability := hfound.ability.symm.trans hfound'.ability
  rw [Option.some.injEq] at hdata hability
  subst hdata
  subst hability
  refine ⟨?_, ?_, hwidth⟩
  . apply (toInt_toInt32 _).mp hfilled.mineralCost
  . apply (toInt_toInt32 _).mp hfilled.gasCost

def AllFound (obs : Observation) : Prop :=
  ∀ entry ∈ plannedTree, ∃ data ability, Found obs entry.1 entry.2 data ability

def Complete (obs : Observation) : Prop :=
  ∀ entry ∈ plannedTree, ∃ data ability, Found obs entry.1 entry.2 data ability ∧ Fits data ability

def Faithful (obs : Observation) : Outcome TechTree → Prop
  | .ok tree => (tree.map Prod.fst).Perm (plannedTree.map Prod.fst) ∧
      ∀ entry ∈ plannedTree, ∃ filled, (entry.1, filled) ∈ tree ∧
        ((∃ data ability, Found obs entry.1 entry.2 data ability ∧
            Filled entry.2 data ability filled) ∨
          (¬ AllFound obs ∧ filled = entry.2))
  | .error (.exception _) => ¬ AllFound obs
  | .error _ => False

theorem entry_eq_ok {entry filledEntry : UnitTypeId × BuildingTraits}
    : fillEntry obs entry = .ok filledEntry
        ↔
      fillTraits obs entry.1 entry.2 = .ok filledEntry.2 ∧ entry.1 = filledEntry.1 := by
  cases filledEntry with
  | mk id' filled' =>
    simp only [fillEntry, Outcome.bind_eq_ok, Outcome.pure_eq_ok, Except.ok.injEq, Prod.mk.injEq]
    constructor
    . intro h
      rcases h with ⟨traits', hfill, hid, rfl⟩
      exact ⟨hfill, hid⟩
    . intro h
      exact ⟨filled', h.1, h.2, rfl⟩

theorem planned_unique {entry entry' : UnitTypeId × BuildingTraits} (hentry : entry ∈ plannedTree)
    (hentry' : entry' ∈ plannedTree) (hid : entry.1 = entry'.1) : entry = entry' := by
  have hnodup : (plannedTree.map Prod.fst).Nodup := by decide
  apply List.inj_on_of_nodup_map hnodup hentry hentry' hid

theorem fillEntry_ne_exception {entry : UnitTypeId × BuildingTraits} {what : String}
    : fillEntry obs entry ≠ .error (.exception what) := by
  unfold fillEntry
  apply Outcome.bind_ne_error fillTraits_ne_exception
  intro traits h
  cases h

variable {order : Reordering (UnitTypeId × BuildingTraits)} {tree : TechTree}

theorem tree_keys (h : makeTechTree obs order = .ok tree)
    : (tree.map Prod.fst).Perm (plannedTree.map Prod.fst) := by
  have hkeys : List.Forall₂ Eq ((order.apply plannedTree).map Prod.fst) (tree.map Prod.fst) := by
    rw [List.forall₂_map_left_iff, List.forall₂_map_right_iff]
    apply (Outcome.mapM_eq_ok.mp h).imp
    intro entry filledEntry hentry
    apply (entry_eq_ok.mp hentry).2
  rw [List.forall₂_eq_eq_eq] at hkeys
  rw [← hkeys]
  apply (order.perm _).map

theorem tree_filled (h : makeTechTree obs order = .ok tree)
    {entry : UnitTypeId × BuildingTraits} (hentry : entry ∈ plannedTree)
    : (entry.1, filled) ∈ tree ↔ fillTraits obs entry.1 entry.2 = .ok filled := by
  rw [Outcome.mem_of_mapM h]
  simp only [Reordering.mem_apply, entry_eq_ok]
  constructor
  . intro hmem
    rcases hmem with ⟨entry', hentry', hfill, hid⟩
    rw [planned_unique hentry hentry' hid.symm]
    apply hfill
  . intro hfill
    exact ⟨entry, hentry, hfill, rfl⟩

theorem tree_found (h : makeTechTree obs order = .ok tree) : AllFound obs := by
  intro entry hentry
  rcases Outcome.mapM_mem h ((order.mem_apply).mpr hentry) with ⟨filledEntry, hfill⟩
  rcases fillTraits_eq_ok.mp (entry_eq_ok.mp hfill).1 with ⟨data, ability, hfound, -, -⟩
  exact ⟨data, ability, hfound⟩

theorem tree_of_complete (h : Complete obs) : ∃ tree, makeTechTree obs order = .ok tree := by
  apply Outcome.mapM_exists
  intro entry hentry
  rw [Reordering.mem_apply] at hentry
  rcases h entry hentry with ⟨data, ability, hfound, hfits⟩
  rcases filled_of_fits hfound hfits with ⟨filled, hfill, -⟩
  exact ⟨(entry.1, filled), entry_eq_ok.mpr ⟨hfill, rfl⟩⟩

theorem makeTechTree_faithful_iff (obs : Observation)
    (order : Reordering (UnitTypeId × BuildingTraits))
    : Faithful obs (makeTechTree obs order) ↔ Complete obs := by
  constructor
  . intro hfaithful
    cases htree : makeTechTree obs order with
    | error fault =>
      rcases Outcome.mapM_error htree with ⟨entry, -, herror⟩
      rw [htree] at hfaithful
      cases fault with
      | exception what => exact absurd herror fillEntry_ne_exception
      | _ => exact hfaithful.elim
    | ok tree =>
      intro entry hentry
      rw [htree] at hfaithful
      rcases hfaithful.2 entry hentry with ⟨filled, hmem, hcase⟩
      rw [tree_filled htree hentry] at hmem
      cases hcase with
      | inl hfilled =>
        rcases hfilled with ⟨data, ability, hfound, hfilled⟩
        exact ⟨data, ability, hfound, fits_of_filled hfound hmem hfilled⟩
      | inr hmissing => exact absurd (tree_found htree) hmissing.1
  . intro hcomplete
    have hexists : ∃ tree, makeTechTree obs order = .ok tree := tree_of_complete hcomplete
    rcases hexists with ⟨tree, htree⟩
    rw [htree]
    constructor
    . apply tree_keys htree
    . intro entry hentry
      rcases hcomplete entry hentry with ⟨data, ability, hfound, hfits⟩
      rcases filled_of_fits hfound hfits with ⟨filled, hfill, hfilled⟩
      refine ⟨filled, (tree_filled htree hentry).mpr hfill, ?_⟩
      exact .inl ⟨data, ability, hfound, hfilled⟩

theorem not_faithful_empty
    : ¬ ∀ (obs : Observation) (order : Reordering (UnitTypeId × BuildingTraits)),
        Faithful obs (makeTechTree obs order) := by
  intro h
  apply h (Observation.new default [] []) Reordering.keep

end Sc2.Utils
