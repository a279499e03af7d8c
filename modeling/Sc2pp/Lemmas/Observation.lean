import Sc2pp.Impl.Observation
import Sc2pp.Lemmas.UnitPool
import Sc2pp.Util.Presence

/-!
This module contains what the observation reports over a whole game: how each list of units differs
from the one before, and how often a unit is reported as created. `Observes` says to which list of
units a message is converted, `frameBefore` is the list before the one at a step and empty before the
first.
-/

namespace Sc2

def Observes (response : Proto.ResponseObservation) (units : Units) : Prop :=
  ∃ commands errors, convertObservation response = .ok (units, commands, errors)

namespace Observation

def changes (obs : Observation) : UnitPool.Changes where
  newUnits := obs.unitsCreated
  damaged := obs.damaged
  self := obs.unitsSelf

def createdTags (obs : Observation) : List Tag :=
  obs.unitsCreated.map Unit.tag

theorem update_of_pool {obs : Observation} {response : Proto.ResponseObservation} {units : Units}
    {changes : UnitPool.Changes} {pool : UnitPool} (hunits : Observes response units)
    (hpool : obs.unitPool.update units = .ok (changes, pool))
    : obs.update response = .ok {
        obs with
        unitPool := pool
        created := changes.newUnits
        damaged := changes.damaged
        self := changes.self
        raw := response
      } := by
  rcases hunits with ⟨commands, errors, hconvert⟩
  simp [update, hconvert, hpool]

theorem update_follows {obs obs' : Observation} {response : Proto.ResponseObservation}
    (h : obs.update response = .ok obs')
    : Observes response obs'.units ∧ obs'.unitPool.Follows obs'.units := by
  simp only [update, UnitPool.update, Outcome.bind_eq_ok, Outcome.pure_eq_ok, Except.ok.injEq] at h
  rcases h with ⟨⟨units, commands, errors⟩, hconvert, pooled, ⟨damaged, -, rfl⟩, rfl⟩
  exact ⟨⟨commands, errors, hconvert⟩, rfl⟩

theorem update_spec (prev : Units) (response : Proto.ResponseObservation) (cur : Units)
    (obs : Observation) (hobs : obs.unitPool.Follows prev ∧ UniqueTags prev)
    (hcur : Observes response cur ∧ UniqueTags cur)
    : ∃ obs', obs.update response = .ok obs' ∧ (obs'.unitPool.Follows cur ∧ UniqueTags cur) ∧
        FrameDiff prev cur obs'.units obs'.changes := by
  rcases UnitPool.update_spec hobs.1 hobs.2 cur with ⟨changes, pool, hupdate, hfollows, hdiff⟩
  exact ⟨_, update_of_pool hcur.1 hupdate, ⟨hfollows, hcur.2⟩, hdiff⟩

def probe (health : Rat) : Proto.Unit :=
  { tag := some 7, alliance := some .self, health := some health }

def createdAt (ss : List Observation) (k : Nat) : List Tag :=
  (ss.map createdTags).getD k []

def CreatedOnce (ss : List Observation) : Prop :=
  ∀ i j, i < j → ∀ t ∈ createdAt ss i, t ∉ createdAt ss j

/-- No tag that was among the own units and then was not is among them again. -/
def NoneReturns (us : List Units) : Prop :=
  ∀ t, Set.OrdConnected {k | t ∈ selfTags (us.getD k [])}

theorem created_spec (prev : Units) (response : Proto.ResponseObservation) (cur : Units)
    (obs : Observation) (hobs : obs.unitPool.Follows prev) (hcur : Observes response cur)
    : ∃ obs', obs.update response = .ok obs' ∧ obs'.unitPool.Follows cur ∧
        ∀ t, t ∈ obs'.createdTags ↔ t ∈ selfTags cur ∧ t ∉ selfTags prev := by
  refine ⟨_, update_of_pool hcur (UnitPool.update_eq hobs cur), rfl, ?_⟩
  intro t
  simp only [createdTags, unitsCreated, List.mem_map, List.mem_filter, decide_eq_true_eq]
  constructor
  . intro h
    rcases h with ⟨x, ⟨hx, hprev⟩, rfl⟩
    exact ⟨mem_selfTags.mpr ⟨x, hx, rfl⟩, hprev⟩
  . intro h
    rcases mem_selfTags.mp h.1 with ⟨x, hx, rfl⟩
    exact ⟨x, ⟨hx, h.2⟩, rfl⟩

theorem run_creates (gameInfo : GameInfo) (unitTypeData : List Proto.UnitTypeData)
    (abilityData : List Proto.AbilityData) {rs : List Proto.ResponseObservation}
    {us : List Units} (h : List.Forall₂ Observes rs us)
    : ∃ ss, Run.states update (new gameInfo unitTypeData abilityData) rs = .ok ss ∧
        ∀ t k, t ∈ createdAt ss k ↔
          Presence.AppearsAt (fun k => t ∈ selfTags (us.getD k [])) k := by
  rcases Run.states_of_last created_spec h [] []
    (new gameInfo unitTypeData abilityData) UnitPool.follows_empty with ⟨ss, hss, hlen, hall⟩
  refine ⟨ss, hss, ?_⟩
  intro t k
  by_cases hk : k < us.length
  . have hk' : k < ss.length := by omega
    have hat : createdAt ss k = ss[k].createdTags := by
      simp [createdAt, hk']
    have hcur : us.getD k [] = us[k] := by
      simp [hk]
    rw [hat, hall k hk hk' t]
    simp only [Presence.AppearsAt, hcur]
    cases k with
    | zero => simp [selfTags, selfUnits]
    | succ k => simp [show k < us.length by omega]
  . have hat : createdAt ss k = [] := by
      simp [createdAt, hlen, hk]
    have hnone : us.getD k [] = [] := by
      simp [hk]
    simp only [hat, Presence.AppearsAt, hnone]
    simp [selfTags, selfUnits]

theorem created_once_iff (gameInfo : GameInfo) (unitTypeData : List Proto.UnitTypeData)
    (abilityData : List Proto.AbilityData) {rs : List Proto.ResponseObservation}
    {us : List Units} (h : List.Forall₂ Observes rs us)
    : ∃ ss, Run.states update (new gameInfo unitTypeData abilityData) rs = .ok ss ∧
        (CreatedOnce ss ↔ NoneReturns us) := by
  rcases run_creates gameInfo unitTypeData abilityData h with ⟨ss, hss, hcreates⟩
  refine ⟨ss, hss, ?_⟩
  unfold CreatedOnce NoneReturns
  simp only [hcreates, ← Presence.appears_once_iff]
  constructor
  . intro honce t i j hij hi
    apply honce i j hij t hi
  . intro honce i j hij t hi
    apply honce t i j hij hi

theorem created_once_iff_probe
    : ∃ ss, Run.states update (new default [] []) [.ofUnits [probe 20], .ofUnits [probe 15]]
          = .ok ss ∧
        (CreatedOnce ss ↔
          NoneReturns [[(probe 20).withOrders []], [(probe 15).withOrders []]]) := by
  apply created_once_iff default [] [] (.cons ⟨_, _, rfl⟩ (.cons ⟨_, _, rfl⟩ .nil))

theorem created_again
    : ∃ ss, Run.states update (new default [] [])
          [.ofUnits [probe 20], .ofUnits [], .ofUnits [probe 20]] = .ok ss ∧
        7 ∈ createdAt ss 0 ∧ 7 ∈ createdAt ss 2 ∧ ¬ CreatedOnce ss := by
  refine ⟨_, rfl, by decide, by decide, ?_⟩
  intro honce
  apply honce 0 2 (by decide) 7 (by decide) (by decide)

end Observation

end Sc2
