import Sc2pp.Impl.UnitTraits
import Sc2pp.Util.Memo

/-!
This module contains the caches behind `is_training_ability` and `is_building_ability`. Each function
has a static map of its own from abilities to what their names start with. A `Lazy` value looks at the
name when it is constructed.
-/

namespace Sc2.Utils

structure AbilityCaches where
  training : Memo AbilityId Bool := .new
  building : Memo AbilityId Bool := .new

inductive AbilityQuestion where
  | isTrainingAbility (id : AbilityId)
  | isBuildingAbility (id : AbilityId)
  deriving DecidableEq, Repr

namespace AbilityCaches

def isTrainingAbility (caches : AbilityCaches) (id : AbilityId) : Bool × AbilityCaches :=
  let emplaced := caches.training.tryEmplace id Utils.isTrainingAbility
  (emplaced.value, { caches with training := emplaced.memo })

def isBuildingAbility (caches : AbilityCaches) (id : AbilityId) : Bool × AbilityCaches :=
  let emplaced := caches.building.tryEmplace id Utils.isBuildingAbility
  (emplaced.value, { caches with building := emplaced.memo })

def answer (caches : AbilityCaches) : AbilityQuestion → Bool × AbilityCaches
  | .isTrainingAbility id => caches.isTrainingAbility id
  | .isBuildingAbility id => caches.isBuildingAbility id

def answers (caches : AbilityCaches) : List AbilityQuestion → List Bool × AbilityCaches
  | [] => ([], caches)
  | question :: questions =>
    let (value, caches) := caches.answer question
    let (values, caches) := caches.answers questions
    (value :: values, caches)

end AbilityCaches

end Sc2.Utils
