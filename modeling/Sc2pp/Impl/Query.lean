import Sc2pp.Impl.Actions
import Sc2pp.Util.Dialogue

/-!
This module contains the queries an agent can make while it decides what to do. `Talk` is the type of
everything that sends requests through the session: a reply is the pointer `SC2Session::send` returns,
which is null if there is no response.
-/

namespace Sc2

abbrev Talk := Dialogue Proto.Request (Option Proto.Response) Fault

structure AvailableAbility where
  abilityId : AbilityId
  requiresPoint : Bool
  deriving DecidableEq, Repr

structure AvailableAbilities where
  abilities : List AvailableAbility
  unitTag : Tag
  unitTypeId : UnitTypeId
  deriving DecidableEq, Repr

namespace Query

def AvailableAbility.fromProto (ability : Proto.AvailableAbility) : AvailableAbility where
  abilityId := ⟨ability.abilityId.getD 0⟩
  requiresPoint := ability.requiresPoint.getD false

def AvailableAbilities.fromProto (abilities : Proto.ResponseQueryAvailableAbilities)
    : AvailableAbilities where
  abilities := abilities.abilities.map AvailableAbility.fromProto
  unitTag := abilities.unitTag.getD 0
  unitTypeId := ⟨(abilities.unitTypeId.getD 0).toInt32⟩

def abilitiesRequest (units : Units) (ignoreResourceRequirements : Bool) : Proto.Request where
  payload := some (.query {
    ignoreResourceRequirements := some ignoreResourceRequirements
    abilities := units.map fun unit => { unitTag := some unit.tag }
  })

def abilities (units : Units) (ignoreResourceRequirements : Bool := false)
    : Talk (List AvailableAbilities) := do
  if units.isEmpty then
    return []
  let response ← Dialogue.send (abilitiesRequest units ignoreResourceRequirements)
  match response with
  | none => return []
  | some response =>
    match response.query? with
    | none => Dialogue.fail (.exception "Query::abilities: wrong response")
    | some query =>
      if query.abilities.isEmpty then
        return []
      return query.abilities.map AvailableAbilities.fromProto

def abilitiesOfUnit (unit : Unit) (ignoreResourceRequirements : Bool := false)
    : Talk AvailableAbilities := do
  let units := [unit]
  let found ← abilities units ignoreResourceRequirements
  Outcome.elementAt found 0

def placementRequest (building : AbilityId) (pos : Point2D) (ignoreResourceRequirements : Bool)
    : Proto.Request where
  payload := some (.query {
    ignoreResourceRequirements := some ignoreResourceRequirements
    placements := [{ abilityId := some building.val, targetPos := some pos.toProto }]
  })

def placement (building : AbilityId) (pos : Point2D) (ignoreResourceRequirements : Bool := false)
    : Talk Bool := do
  let response ← Dialogue.send (placementRequest building pos ignoreResourceRequirements)
  match response with
  | none => return false
  | some response =>
    match response.query? with
    | none => Dialogue.fail (.exception "Query::placements: wrong response")
    | some responseQuery =>
      Outcome.assertThat (responseQuery.placements.length == 1)
      let placement ← Outcome.elementAt responseQuery.placements 0
      let res := placement.result.getD .success
      return res == .success

end Query

end Sc2
