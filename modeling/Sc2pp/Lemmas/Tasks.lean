import Sc2pp.Lemmas.Actions
import Sc2pp.Impl.Converters

/-!
This module contains what the overload of `command` for a task appends, compared with the overloads
for one unit. A message `withDefaults` has every field set that a getter would read as its default.
-/

namespace Sc2

namespace Proto

def Point2D.withDefaults (p : Proto.Point2D) : Proto.Point2D :=
  { x := some (p.x.getD 0), y := some (p.y.getD 0) }

def ActionRawUnitCommand.Target.withDefaults
    : ActionRawUnitCommand.Target → ActionRawUnitCommand.Target
  | .targetWorldSpacePos p => .targetWorldSpacePos p.withDefaults
  | .targetUnitTag t => .targetUnitTag t

def ActionRaw.withDefaults : ActionRaw → ActionRaw
  | .unitCommand command =>
    .unitCommand {
      abilityId := some (command.abilityId.getD 0)
      target := command.target.map ActionRawUnitCommand.Target.withDefaults
      unitTags := command.unitTags
      queueCommand := some (command.queueCommand.getD false)
    }
  | .toggleAutocast autocast =>
    .toggleAutocast {
      abilityId := some (autocast.abilityId.getD 0)
      unitTags := autocast.unitTags
    }
  | .other => .other

def ActionChat.withDefaults (chat : ActionChat) : ActionChat :=
  { channel := some (chat.channel.getD .broadcast), message := some (chat.message.getD "") }

def Action.withDefaults (action : Action) : Action where
  actionRaw := action.actionRaw.map ActionRaw.withDefaults
  actionChat := action.actionChat.map ActionChat.withDefaults

def Action.isQueued (action : Action) : Bool :=
  match action.actionRaw with
  | some (.unitCommand command) => command.queueCommand.getD false
  | _ => false

end Proto

namespace Actions

-- The overload for one unit that says the same as a task.
def taskCall (task : Task) (unit target : Unit) (queued : Bool) : Call :=
  match task.target with
  | none => .commandUnit unit task.action queued
  | some (.point p) => .commandUnitPoint unit task.action p queued
  | some (.tag _) => .commandUnitUnit unit task.action target queued

structure TaskAppends (actions : Actions) (task : Task) (queued : Bool) (unit target : Unit)
    (action action' : Proto.Action) : Prop where
  appends : (actions.commandTask task queued).pending = actions.pending ++ [action]
  appends' : (actions.call (taskCall task unit target queued)).pending = actions.pending ++ [action']
  same : action.withDefaults = action'.withDefaults
  order : action.order? = some (.command task.action task.orderTarget [task.executor])
  queued : action.isQueued = queued

theorem pending_call (actions : Actions) (c : Call)
    : (actions.call c).pending = actions.pending ++ [c.message] := by
  rw [call_eq_addAction, pending_addAction]

theorem message_taskCall {task : Task} {queued : Bool} {unit target : Unit}
    (hunit : unit.tag = task.executor)
    (htarget : ∀ t, task.target = some (.tag t) → target.tag = t)
    (h : task.target ≠ none ∨ queued = false)
    : (Call.commandTask task queued).message.withDefaults
        = (taskCall task unit target queued).message.withDefaults ∧
      (Call.commandTask task queued).message.isQueued = queued := by
  rcases task with ⟨executor, action, _ | p | t⟩
  . have hqueued : queued = false := by simpa using h
    subst hqueued hunit
    exact ⟨rfl, rfl⟩
  . subst hunit
    exact ⟨rfl, rfl⟩
  . have htag : target.tag = t := htarget t rfl
    subst hunit htag
    exact ⟨rfl, rfl⟩

theorem isQueued_commandTask {task : Task} (queued : Bool) (h : task.target = none)
    : (Call.commandTask task queued).message.isQueued = false := by
  rcases task with ⟨executor, action, _ | _⟩
  . rfl
  . cases h

theorem commandTask_appends_iff (actions : Actions) (task : Task) (queued : Bool)
    {unit target : Unit} (hunit : unit.tag = task.executor)
    (htarget : ∀ t, task.target = some (.tag t) → target.tag = t)
    : (∃ action action', TaskAppends actions task queued unit target action action')
        ↔
      task.target ≠ none ∨ queued = false := by
  have hpending := pending_call actions (.commandTask task queued)
  constructor
  . intro h
    rcases h with ⟨action, action', happends⟩
    have hmessage := happends.appends
    change (actions.call (.commandTask task queued)).pending = _ at hmessage
    rw [hpending, List.append_cancel_left_eq, List.singleton_inj] at hmessage
    by_cases hnone : task.target = none
    . right
      rw [← happends.queued, ← hmessage, isQueued_commandTask queued hnone]
    . exact .inl hnone
  . intro h
    rcases message_taskCall hunit htarget h with ⟨hsame, hqueued⟩
    exact ⟨_, _, hpending, pending_call actions _, hsame, order?_message _, hqueued⟩

def probe : Unit :=
  Proto.Unit.withOrders { tag := some 7 } []

theorem commandTask_appends_point
    : ∃ action action', TaskAppends ({} : Actions) ⟨7, ⟨23⟩, some (.point ⟨1, 2⟩)⟩ true probe probe
        action action' := by
  have hunit : probe.tag = 7 := by rfl
  rw [commandTask_appends_iff {} ⟨7, ⟨23⟩, some (.point ⟨1, 2⟩)⟩ true hunit (by simp)]
  exact .inl (by simp)

theorem commandTask_loses_queued
    : ¬ ∀ (actions : Actions) (task : Task) (queued : Bool) (unit target : Unit),
        unit.tag = task.executor → (∀ t, task.target = some (.tag t) → target.tag = t) →
          ∃ action action', TaskAppends actions task queued unit target action action' := by
  intro h
  rcases h {} ⟨7, ⟨23⟩, none⟩ true probe probe rfl (by simp) with ⟨action, action', happends⟩
  have hmessage : [action] = [(Call.commandTask ⟨7, ⟨23⟩, none⟩ true).message] :=
    happends.appends.symm
  have hqueued := happends.queued
  rw [List.singleton_inj.mp hmessage] at hqueued
  cases hqueued

end Actions

end Sc2
