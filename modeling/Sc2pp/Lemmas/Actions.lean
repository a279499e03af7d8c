import Sc2pp.Impl.Actions
import Sc2pp.Util.Outbox

/-!
This module contains what becomes of the calls that issue an action. An `Order` is what a call asks
for and what a message can be read as, `message` is the action a call adds to the request. A batch of
actions is an outbox of these messages.
-/

namespace Sc2

inductive Order.Target where
  | none
  | point (p : Point2D)
  | unit (t : Tag)
  deriving DecidableEq, Repr

inductive Order where
  | command (ability : AbilityId) (target : Order.Target) (unitTags : List Tag)
  | autocast (ability : AbilityId) (unitTags : List Tag)
  | chat (message : String) (channel : Proto.ActionChat.Channel)
  deriving DecidableEq, Repr

namespace Proto

def Point2D.whole? (p : Proto.Point2D) : Option Sc2.Point2D := do
  return { x := ← p.x, y := ← p.y }

@[simp]
theorem Point2D.whole?_toProto (p : Sc2.Point2D) : p.toProto.whole? = some p := by
  rfl

def ActionRawUnitCommand.orderTarget? (command : ActionRawUnitCommand) : Option Order.Target :=
  match command.target with
  | none => some .none
  | some (.targetWorldSpacePos p) => p.whole?.map .point
  | some (.targetUnitTag t) => some (.unit t)

def Action.order? (action : Action) : Option Order :=
  match action.actionRaw, action.actionChat with
  | some (.unitCommand command), none => do
    return .command ⟨← command.abilityId⟩ (← command.orderTarget?) command.unitTags
  | some (.toggleAutocast autocast), none => do
    return .autocast ⟨← autocast.abilityId⟩ autocast.unitTags
  | none, some chat => do
    return .chat (← chat.message) (← chat.channel)
  | _, _ => none

end Proto

def Task.orderTarget (task : Task) : Order.Target :=
  match task.target with
  | none => .none
  | some (.point p) => .point p
  | some (.tag t) => .unit t

namespace Actions

def pending (actions : Actions) : List Proto.Action :=
  actions.request.elim [] fun request => request.action.actions

def Filled (actions : Actions) : Prop :=
  ∀ request, actions.request = some request → request.action.actions ≠ []

namespace Call

def order : Call → Order
  | commandUnit unit ability _ => .command ability .none [unit.tag]
  | commandUnitPoint unit ability point _ => .command ability (.point point) [unit.tag]
  | commandUnitUnit unit ability target _ => .command ability (.unit target.tag) [unit.tag]
  | commandUnits units ability _ => .command ability .none (units.map Unit.tag)
  | commandUnitsPoint units ability point _ =>
    .command ability (.point point) (units.map Unit.tag)
  | commandUnitsUnit units ability target _ =>
    .command ability (.unit target.tag) (units.map Unit.tag)
  | commandTask task _ => .command task.action task.orderTarget [task.executor]
  | toggleAutocastTag unitTag ability => .autocast ability [unitTag]
  | toggleAutocastTags unitTags ability => .autocast ability unitTags
  | chat message channel => .chat message channel

def message (c : Call) : Proto.Action :=
  (({} : Actions).call c).pending.headD {}

end Call

theorem call_eq_addAction (actions : Actions) (c : Call)
    : actions.call c = actions.addAction c.message := by
  cases c with
  | commandTask task queued =>
    rcases task with ⟨executor, action, _ | _ | _⟩ <;> rfl
  | _ => rfl

theorem order?_message (c : Call) : c.message.order? = some c.order := by
  cases c with
  | commandTask task queued =>
    rcases task with ⟨executor, action, _ | _ | _⟩ <;> rfl
  | _ => rfl

theorem pending_addAction (actions : Actions) (action : Proto.Action)
    : (actions.addAction action).pending = actions.pending ++ [action] := by
  unfold addAction pending
  cases actions.request with
  | none => rfl
  | some request => simp

theorem filled_addAction (actions : Actions) (action : Proto.Action)
    : (actions.addAction action).Filled := by
  intro request hrequest
  simp only [addAction, Option.some.injEq] at hrequest
  simp [← hrequest]

theorem reset_spec (actions : Actions)
    : actions.reset.1.action.actions = actions.pending ∧ actions.reset.2 = {} := by
  unfold reset pending
  split
  . next h => exact ⟨by simp [h, Proto.Request.action], by cases actions; simp_all⟩
  . next h => exact ⟨by simp [h], rfl⟩

theorem pending_empty : ({} : Actions).pending = [] := by
  rfl

theorem filled_empty : ({} : Actions).Filled := by
  simp [Filled]

theorem refines
    : Outbox.Refines Filled call reset pending (fun request => request.action.actions)
        Call.message where
  inv_push actions c _ := by
    rw [call_eq_addAction]
    apply filled_addAction actions c.message
  inv_flush actions _ := by
    rw [(reset_spec actions).2]
    apply filled_empty
  pending_push actions c _ := by
    rw [call_eq_addAction, pending_addAction]
  pending_flush actions _ := by
    rw [(reset_spec actions).2, pending_empty]
  content_flush actions _ := (reset_spec actions).1

theorem has_iff {actions : Actions} (h : actions.Filled)
    : actions.has = true ↔ actions.pending ≠ [] := by
  unfold has pending
  cases hrequest : actions.request with
  | none => simp
  | some request => simpa using h request hrequest

theorem hasAction_reset {actions : Actions} (h : actions.has = false)
    : actions.reset.1.hasAction = false := by
  simp only [has, Option.isSome_eq_false_iff, Option.isNone_iff_eq_none] at h
  simp [reset, h, Proto.Request.hasAction]

theorem run_keeps_calls (events : List (Outbox.Event Call))
    : let (requests, actions) := Outbox.run call reset {} events
      (requests.flatMap (fun request => request.action.actions) ++ actions.pending).map
          Proto.Action.order?
        = (Outbox.pushes events).map (fun c => some c.order) ∧
      (actions.has = true ↔ Outbox.unflushed events ≠ []) ∧
      (Outbox.unflushed events = [] → actions.reset.1.hasAction = false) := by
  have hcontent := refines.run_content filled_empty events
  have hpending := refines.run_pending filled_empty events [] rfl
  have hfilled := refines.run_inv filled_empty events
  have hhas : (Outbox.run call reset {} events).2.has = true ↔ Outbox.unflushed events ≠ [] := by
    rw [has_iff hfilled, hpending]
    simp [Outbox.unflushed]
  refine ⟨?_, hhas, ?_⟩
  . rw [hcontent, pending_empty, List.nil_append, List.map_map]
    congr 1
    funext c
    apply order?_message c
  . intro hnone
    apply hasAction_reset
    simpa [hnone] using hhas

end Actions

end Sc2
