import Sc2pp.Common
import Sc2pp.Proto.Sc2api

/-!
This module contains the batch of actions an agent issues during one update. The request that carries
them is created by the first action and moved away by `reset`. An overload of `command` has the type
of its arguments in its name. A unit the source takes a reference to and only reads the tag of is the
whole unit here too. `Call` lists the entry points that issue an action.

The source adds an empty action to the request and then fills it in place. Here it is filled first
and added then.
-/

namespace Sc2

inductive Task.Target where
  | point (p : Point2D)
  | tag (t : Tag)
  deriving DecidableEq, Repr

structure Task where
  executor : Tag
  action : AbilityId
  target : Option Task.Target
  deriving DecidableEq, Repr

structure Actions where
  request : Option Proto.Request := none
  deriving DecidableEq, Repr, Inhabited

def Point2D.toProto (point : Point2D) : Proto.Point2D :=
  { x := some point.x, y := some point.y }

namespace Actions

def reset (actions : Actions) : Proto.Request × Actions :=
  match actions.request with
  | none => ({}, actions)
  | some request => (request, { actions with request := none })

def addAction (actions : Actions) (action : Proto.Action) : Actions :=
  let request := actions.request.getD {}
  { actions with request := some (request.withAction fun r => { actions := r.actions ++ [action] }) }

def has (actions : Actions) : Bool :=
  actions.request.isSome

def toggleAutocastTags (actions : Actions) (unitTags : List Tag) (ability : AbilityId) : Actions :=
  actions.addAction {
    actionRaw := some (.toggleAutocast { unitTags := unitTags, abilityId := some ability.val })
  }

def toggleAutocastTag (actions : Actions) (unitTag : Tag) (ability : AbilityId) : Actions :=
  actions.toggleAutocastTags [unitTag] ability

def chat (actions : Actions) (message : String) (channel : Proto.ActionChat.Channel := .broadcast)
    : Actions :=
  actions.addAction { actionChat := some { message := some message, channel := some channel } }

def commandUnits (actions : Actions) (units : Units) (ability : AbilityId) (queued : Bool := false)
    : Actions :=
  actions.addAction {
    actionRaw := some (.unitCommand {
      abilityId := some ability.val
      queueCommand := some queued
      unitTags := units.map Unit.tag
    })
  }

def commandTask (actions : Actions) (task : Task) (queued : Bool := false) : Actions :=
  let unitCommand : Proto.ActionRawUnitCommand :=
    { abilityId := some task.action.val, unitTags := [task.executor] }
  match task.target with
  -- Without a target the function returns before it says whether the command is queued.
  | none => actions.addAction { actionRaw := some (.unitCommand unitCommand) }
  | some (.point p) =>
    actions.addAction {
      actionRaw := some (.unitCommand {
        unitCommand with
        target := some (.targetWorldSpacePos p.toProto)
        queueCommand := some queued
      })
    }
  | some (.tag t) =>
    actions.addAction {
      actionRaw := some (.unitCommand {
        unitCommand with
        target := some (.targetUnitTag t)
        queueCommand := some queued
      })
    }

def commandUnitsPoint (actions : Actions) (units : Units) (ability : AbilityId) (point : Point2D)
    (queued : Bool := false) : Actions :=
  actions.addAction {
    actionRaw := some (.unitCommand {
      abilityId := some ability.val
      target := some (.targetWorldSpacePos point.toProto)
      queueCommand := some queued
      unitTags := units.map Unit.tag
    })
  }

def commandUnitsUnit (actions : Actions) (units : Units) (ability : AbilityId) (target : Unit)
    (queued : Bool := false) : Actions :=
  actions.addAction {
    actionRaw := some (.unitCommand {
      abilityId := some ability.val
      target := some (.targetUnitTag target.tag)
      queueCommand := some queued
      unitTags := units.map Unit.tag
    })
  }

def commandUnit (actions : Actions) (unit : Unit) (ability : AbilityId) (queued : Bool := false)
    : Actions :=
  actions.commandUnits [unit] ability queued

def commandUnitPoint (actions : Actions) (unit : Unit) (ability : AbilityId) (point : Point2D)
    (queued : Bool := false) : Actions :=
  actions.commandUnitsPoint [unit] ability point queued

def commandUnitUnit (actions : Actions) (unit : Unit) (ability : AbilityId) (target : Unit)
    (queued : Bool := false) : Actions :=
  actions.commandUnitsUnit [unit] ability target queued

inductive Call where
  | commandUnit (unit : Unit) (ability : AbilityId) (queued : Bool)
  | commandUnitPoint (unit : Unit) (ability : AbilityId) (point : Point2D) (queued : Bool)
  | commandUnitUnit (unit : Unit) (ability : AbilityId) (target : Unit) (queued : Bool)
  | commandUnits (units : Units) (ability : AbilityId) (queued : Bool)
  | commandUnitsPoint (units : Units) (ability : AbilityId) (point : Point2D) (queued : Bool)
  | commandUnitsUnit (units : Units) (ability : AbilityId) (target : Unit) (queued : Bool)
  | commandTask (task : Task) (queued : Bool)
  | toggleAutocastTag (unitTag : Tag) (ability : AbilityId)
  | toggleAutocastTags (unitTags : List Tag) (ability : AbilityId)
  | chat (message : String) (channel : Proto.ActionChat.Channel)

def call (actions : Actions) : Call → Actions
  | .commandUnit unit ability queued => actions.commandUnit unit ability queued
  | .commandUnitPoint unit ability point queued =>
    actions.commandUnitPoint unit ability point queued
  | .commandUnitUnit unit ability target queued =>
    actions.commandUnitUnit unit ability target queued
  | .commandUnits units ability queued => actions.commandUnits units ability queued
  | .commandUnitsPoint units ability point queued =>
    actions.commandUnitsPoint units ability point queued
  | .commandUnitsUnit units ability target queued =>
    actions.commandUnitsUnit units ability target queued
  | .commandTask task queued => actions.commandTask task queued
  | .toggleAutocastTag unitTag ability => actions.toggleAutocastTag unitTag ability
  | .toggleAutocastTags unitTags ability => actions.toggleAutocastTags unitTags ability
  | .chat message channel => actions.chat message channel

end Actions

end Sc2
