import Sc2pp.Impl.Query
import Sc2pp.Impl.SC2Context

/-!
This module contains the agent. What a derived class does in its `update` is a `Program` over the
part of its state that is its own: it issues actions, asks whether it has, makes queries and goes on
with their answers, which are exceptions if they throw, and ends with its new state or fails. It does
not reset the batch of actions, and it comes to an end. Programs are put together with `do`, an
exception of a query then ends the update.
-/

namespace Sc2

inductive Query.Call where
  | abilities (units : Units) (ignoreResourceRequirements : Bool)
  | abilitiesOfUnit (unit : Unit) (ignoreResourceRequirements : Bool)
  | placement (building : AbilityId) (pos : Point2D) (ignoreResourceRequirements : Bool)

inductive Query.Answer where
  | abilities (found : List AvailableAbilities)
  | abilitiesOfUnit (found : AvailableAbilities)
  | placement (possible : Bool)

def Query.Call.run : Query.Call → Talk Query.Answer
  | abilities units ignore => do
    return .abilities (← Query.abilities units ignore)
  | abilitiesOfUnit unit ignore => do
    return .abilitiesOfUnit (← Query.abilitiesOfUnit unit ignore)
  | placement building pos ignore => do
    return .placement (← Query.placement building pos ignore)

namespace Agent

inductive Program (σ : Type) where
  | done (state : σ)
  | fail (fault : Fault)
  | act (call : Actions.Call) (k : Program σ)
  | has (k : Bool → Program σ)
  | query (call : Query.Call) (k : Except String Query.Answer → Program σ)

variable {σ : Type}

namespace Program

variable {α β : Type}

def bind : Program α → (α → Program β) → Program β
  | done a, f => f a
  | fail fault, _ => fail fault
  | act call k, f => act call (k.bind f)
  | has k, f => has fun b => (k b).bind f
  | query call k, f => query call fun answer => (k answer).bind f

instance : Monad Program where
  pure := done
  bind := bind

instance : MonadLift Outcome Program where
  monadLift
    | .ok a => done a
    | .error fault => fail fault

def command (call : Actions.Call) : Program PUnit :=
  act call (done ⟨⟩)

-- An answer always is of the kind its query has.
def asking (call : Query.Call) (f : Query.Answer → Option α) : Program α :=
  query call fun
    | .ok answer =>
      match f answer with
      | some a => done a
      | none => fail .assertFailed
    | .error what => fail (.exception what)

def abilities (units : Units) : Program (List AvailableAbilities) :=
  asking (.abilities units false) fun
    | .abilities found => some found
    | _ => none

def abilitiesOfUnit (unit : Unit) : Program AvailableAbilities :=
  asking (.abilitiesOfUnit unit false) fun
    | .abilitiesOfUnit found => some found
    | _ => none

def placement (building : AbilityId) (pos : Point2D) : Program Bool :=
  asking (.placement building pos false) fun
    | .placement possible => some possible
    | _ => none

end Program

def Program.run (actions : Actions) : Program σ → Talk (σ × Actions)
  | done state => return (state, actions)
  | fail fault => Dialogue.fail fault
  | act call k => k.run (actions.call call)
  | has k => (k actions.has).run actions
  | query call k => do
    match ← call.run.attempt with
    | .ok answer => (k (.ok answer)).run actions
    | .error (.exception what) => (k (.error what)).run actions
    | .error fault => Dialogue.fail fault

end Agent

structure Agent (σ : Type) where
  id : UInt32
  sc2 : SC2Context
  state : σ
  update : σ → Observation → Agent.Program σ

namespace Agent

variable {σ : Type}

def step (agent : Agent σ) (responseObs : Proto.ResponseObservation)
    : Talk (Proto.Request × Agent σ) := do
  let sc2 ← agent.sc2.update responseObs
  let (state, act) ← (agent.update agent.state sc2.obs).run sc2.act
  let (request, act) := act.reset
  return (request, { agent with sc2 := { sc2 with act := act }, state := state })

end Agent

end Sc2
