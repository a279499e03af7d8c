import Sc2pp.Lemmas.Actions
import Sc2pp.Lemmas.Converters

/-!
This module contains what a client reads back of its own commands when the server echoes the actions
it was sent. `Shows` says that a command that was read back is the one an order asked for, `readBack`
is what the decoder makes of an order.
-/

namespace Sc2

def Order.isCommand : Order → Bool
  | command _ _ _ => true
  | _ => false

def Order.TargetsUnit (order : Order) : Prop :=
  ∃ ability t unitTags, order = .command ability (.unit t) unitTags

def CommandTarget.Shows (shown : CommandTarget) : Order.Target → Prop
  | .none => True
  | .point p => shown = .point p
  | .unit t => shown = .tag t

def UnitCommand.Shows (command : UnitCommand) : Order → Prop
  | .command ability target _ => command.abilityId = ability.val ∧ command.target.Shows target
  | _ => False

def Order.Target.readBack : Order.Target → CommandTarget
  | point p => .point p
  | _ => .point {}

def Order.readBack : Order → List UnitCommand
  | command ability target _ => [{ abilityId := ability.val, target := target.readBack }]
  | _ => []

def Echoed (calls : List Actions.Call) (commands : List UnitCommand) : Prop :=
  List.Forall₂ (fun order command => UnitCommand.Shows command order)
    ((calls.map Actions.Call.order).filter Order.isCommand) commands

def echo (response : Proto.ResponseObservation) (calls : List Actions.Call)
    : Proto.ResponseObservation :=
  let request := (calls.foldl Actions.call {}).reset.1
  { response with actions := request.action.actions }

theorem echoedUnitCommands_append (actions₁ actions₂ : List Proto.Action)
    : echoedUnitCommands (actions₁ ++ actions₂)
        =
      echoedUnitCommands actions₁ ++ echoedUnitCommands actions₂ := by
  simp [echoedUnitCommands]

theorem echoedUnitCommands_message (c : Actions.Call)
    : echoedUnitCommands [c.message] = c.order.readBack := by
  cases c with
  | commandTask task queued =>
    rcases task with ⟨executor, action, _ | _ | _⟩ <;> rfl
  | _ => rfl

theorem echoedUnitCommands_messages (calls : List Actions.Call)
    : echoedUnitCommands (calls.map Actions.Call.message)
        =
      calls.flatMap fun c => c.order.readBack := by
  induction calls with
  | nil => rfl
  | cons c calls ih =>
    rw [List.map_cons, ← List.singleton_append, echoedUnitCommands_append,
      echoedUnitCommands_message, ih, List.flatMap_cons]

theorem echo_actions (response : Proto.ResponseObservation) (calls : List Actions.Call)
    : (echo response calls).actions = calls.map Actions.Call.message := by
  have hpending := (Actions.refines.foldl_push Actions.filled_empty calls).2
  unfold echo
  simp only
  rw [(Actions.reset_spec _).1, hpending, Actions.pending_empty, List.nil_append]

theorem shows_readBack_iff (ability : AbilityId) (target : Order.Target) (unitTags : List Tag)
    : UnitCommand.Shows ⟨ability.val, target.readBack⟩ (.command ability target unitTags)
        ↔
      ¬ (Order.command ability target unitTags).TargetsUnit := by
  cases target <;>
    simp [UnitCommand.Shows, CommandTarget.Shows, Order.Target.readBack, Order.TargetsUnit]

theorem echoed_readBack_iff (calls : List Actions.Call)
    : Echoed calls (calls.flatMap fun c => c.order.readBack)
        ↔
      ∀ c ∈ calls, ¬ c.order.TargetsUnit := by
  unfold Echoed
  induction calls with
  | nil => simp
  | cons c calls ih =>
    rw [List.map_cons, List.flatMap_cons, List.forall_mem_cons, ← ih]
    cases c.order with
    | command ability target unitTags =>
      rw [List.filter_cons_of_pos rfl, ← shows_readBack_iff]
      apply List.forall₂_cons
    | autocast ability unitTags => simp [Order.isCommand, Order.readBack, Order.TargetsUnit]
    | chat message channel => simp [Order.isCommand, Order.readBack, Order.TargetsUnit]

theorem echoed_iff (response : Proto.ResponseObservation) (calls : List Actions.Call)
    : (∃ units commands errors,
          convertObservation (echo response calls) = .ok (units, commands, errors) ∧
          Echoed calls commands)
        ↔
      response.OrdersNamed ∧ ∀ c ∈ calls, ¬ c.order.TargetsUnit := by
  have hcommands : echoedUnitCommands (echo response calls).actions
      = calls.flatMap fun c => c.order.readBack := by
    rw [echo_actions, echoedUnitCommands_messages]
  have hnamed : (echo response calls).OrdersNamed ↔ response.OrdersNamed := by
    rfl
  rw [← hnamed, ← convertObservation_exists_iff, ← echoed_readBack_iff, ← hcommands]
  constructor
  . intro h
    rcases h with ⟨units, commands, errors, hconvert, hechoed⟩
    rw [(convertObservation_eq_ok.mp hconvert).2.1] at hechoed
    exact ⟨⟨_, hconvert⟩, hechoed⟩
  . intro h
    rcases h with ⟨⟨⟨units, commands, errors⟩, hconvert⟩, hechoed⟩
    refine ⟨units, commands, errors, hconvert, ?_⟩
    rwa [(convertObservation_eq_ok.mp hconvert).2.1]

def attack : Actions.Call :=
  .commandUnitUnit (Proto.Unit.withOrders { tag := some 7 } []) ⟨23⟩
    (Proto.Unit.withOrders { tag := some 9 } []) false

theorem echo_loses_target
    : convertObservation (echo {} [attack]) = .ok ([], [⟨23, .point ⟨0, 0⟩⟩], []) ∧
      attack.order = .command ⟨23⟩ (.unit 9) [7] ∧
      ¬ Echoed [attack] [⟨23, .point ⟨0, 0⟩⟩] := by
  refine ⟨rfl, rfl, ?_⟩
  intro h
  exact (echoed_readBack_iff [attack]).mp h attack (by simp) ⟨⟨23⟩, 9, [7], rfl⟩

end Sc2
