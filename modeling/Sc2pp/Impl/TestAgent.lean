import Sc2pp.Impl.Agent
import Sc2pp.Impl.BuildPos
import Sc2pp.Util.Reordering

/-!
This module contains the agent of the tests. It trains and builds whatever its buildings and its first
probe can, and counts how often it has taken each action.

What an update leaves to chance is its `Dice`: the order `std::partition` leaves each half of a list
in, the shuffle, and the points `random0` makes, given relative to the Nexus. The points of a candidate
are found under the number of candidates after it. A counter the map of taken actions does not contain
yet is `none`. The text on the console is left out.
-/

namespace Sc2

open Agent Utils

structure PossibleAction where
  action : AbilityId
  executor : Tag
  deriving DecidableEq, Repr

structure Dice where
  partition : Reordering PossibleAction
  shuffle : Reordering PossibleAction
  offsets : Nat → Nat → Point2D

structure TestAgent where
  takenActions : AbilityId → Option Nat := fun _ => none

namespace TestAgent

def pylonRadius : Rat := 13 / 2

def randPointNear (offset : Point2D) (center : Point2D) : Point2D :=
  ⟨offset.x + center.x, offset.y + center.y⟩

def findAnchorPoint (obs : Observation) (building : AbilityId) : Program (Option Point2D) :=
  let pylons := obs.unitsSelf.filter (type .protossPylon)
  let pylonsBuilt := pylons.filter built
  if !pylons.isEmpty && pylonsBuilt.isEmpty then
    return none
  else if pylons.isEmpty then
    return none
  else
    pylonsBuilt.findSomeM? fun center =>
      findBuildposNear Program.placement (.ofPoint3D center.pos) pylonRadius building

def freeGeysers (obs : Observation) : Units :=
  let assimilators := obs.unitsSelf.filter (type .protossAssimilator)
  (obs.units.filter isGeyser).filter fun g =>
    !assimilators.any fun a => distSquared (.ofPoint3D g.pos) (.ofPoint3D a.pos) == 0

def buildAssimilator (obs : Observation) (builder : Tag) : Outcome (Option Task) := do
  let nexuses := obs.unitsSelf.filter (type .protossNexus)
  let assimilators := obs.unitsSelf.filter (type .protossAssimilator)
  if nexuses.length * 2 ≤ assimilators.length then
    return none
  let geysers := freeGeysers obs
  if geysers.isEmpty then
    return none
  let nexus ← Outcome.elementAt nexuses 0
  let geyser ← closest (.ofPoint3D nexus.pos) geysers
  return some {
    executor := builder
    action := .buildAssimilator
    target := some (.tag geyser.tag)
  }

def playerCommon (obs : Observation) : Proto.PlayerCommon :=
  (obs.raw.observation.getD {}).playerCommon.getD {}

-- Food is counted in 32 bits and compared in 64.
def enoughFood (obs : Observation) (pylons : Units) : Bool :=
  (2 * (playerCommon obs).foodUsed.getD 0).toNat
    < ((playerCommon obs).foodCap.getD 0).toNat + pylons.length * 5

def buildPylon (obs : Observation) (offsets : Nat → Point2D) (builder : Tag) (force : Bool := false)
    : Program (Option Task) := do
  let pylons := obs.unitsSelf.filter (type .protossPylon)
  if force && enoughFood obs pylons then
    return none
  let nexus ← Outcome.elementAt (obs.unitsSelf.filter (type .protossNexus)) 0
  (List.range 100).findSomeM? fun i => do
    let target := randPointNear (offsets i) (.ofPoint3D nexus.pos)
    if ← Program.placement .buildPylon target then
      return some { executor := builder, action := .buildPylon, target := some (.point target) }
    else
      return none

def findPossibleTask (obs : Observation) (offsets : Nat → Point2D) (x : PossibleAction)
    : Program (Option Task) := do
  if isTrainingAbility x.action then
    return some { executor := x.executor, action := x.action, target := none }
  else if isBuildingAbility x.action then
    if x.action = .buildAssimilator then
      buildAssimilator obs x.executor
    else if x.action = .buildPylon then
      buildPylon obs offsets x.executor
    else
      match ← findAnchorPoint obs x.action with
      | some anchorPoint =>
        return some {
          executor := x.executor
          action := x.action
          target := some (.point anchorPoint)
        }
      | none => buildPylon obs offsets x.executor true
  else
    return none

def findPossibleTasks (obs : Observation) (offsets : Nat → Nat → Point2D)
    : List PossibleAction → Program (List Task)
  | [] => return []
  | x :: actions => do
    let task ← findPossibleTask obs (offsets actions.length) x
    let tasks ← findPossibleTasks obs offsets actions
    return task.toList ++ tasks

def toPossibleActions (a : AvailableAbilities) : List PossibleAction :=
  a.abilities.map fun availAbility => { action := availAbility.abilityId, executor := a.unitTag }

def possibleBuildActions (builder : Unit) (a : AvailableAbilities) : List PossibleAction :=
  (a.abilities.filter fun x => isBuildingAbility x.abilityId).map fun x =>
    { action := x.abilityId, executor := builder.tag }

def findPossibleActions (obs : Observation) : Program (List PossibleAction) := do
  let idleBuildings := obs.unitsSelf.filter fun u => building u && built u && idle u
  let buildingsActions := (← Program.abilities idleBuildings).flatMap toPossibleActions
  match obs.unitsSelf.filter (type .protossProbe) with
  | [] => return buildingsActions
  | builder :: _ =>
    let buildActions := possibleBuildActions builder (← Program.abilitiesOfUnit builder)
    return buildingsActions ++ buildActions

def pad (digits : Nat) (n : Nat) : String :=
  let s := toString n
  String.ofList (List.replicate (digits - s.length) '0') ++ s

def roundToEven (r : Rat) : Nat :=
  let n := r.floor.toNat
  if 1 / 2 < r - n ∨ (r - n = 1 / 2 ∧ n % 2 = 1) then n + 1 else n

-- `std::to_string` of a `float`: six digits, rounded.
def progressString (progress : Rat) : String :=
  let n := roundToEven (|progress| * 10 ^ 6)
  (if progress < 0 then "-" else "") ++ toString (n / 10 ^ 6) ++ "." ++ pad 6 (n % 10 ^ 6)

def createdString (u : Unit) : String :=
  "Unit created: " ++ toString u.tag ++ ": " ++ progressString u.buildProgress ++ "\n"

def announceCreated (obs : Observation) : Program PUnit :=
  if obs.unitsCreated.isEmpty then
    return ⟨⟩
  else
    Program.command (.chat (String.join (obs.unitsCreated.map createdString)) .broadcast)

def manageIdle (obs : Observation) : Program PUnit :=
  let nexuses := obs.unitsSelf.filter (type .protossNexus)
  let minerals := (obs.units.filter (type .neutralMineralField)).filter fun m =>
    nexuses.any fun n => distSquared (.ofPoint3D m.pos) (.ofPoint3D n.pos) < 100
  let idleProbes := obs.unitsSelf.filter fun u => type .protossProbe u && idle u
  idleProbes.forM fun u => do
    let mineral ← closest (.ofPoint3D u.pos) minerals
    Program.command (.commandUnitUnit u .harvestGather mineral false)

def assignToAssimilators (obs : Observation) : Program PUnit :=
  let probes := obs.unitsSelf.filter (type .protossProbe)
  let newAssimilators := obs.unitsCreated.filter (type .protossAssimilator)
  (probes.zip newAssimilators).forM fun (probe, x) =>
    Program.command (.commandUnitUnit probe .harvestGather x false)

def stopProbes (obs : Observation) : Bool :=
  let probes := obs.unitsSelf.filter (type .protossProbe)
  let nexuses := obs.unitsSelf.filter fun u => type .protossNexus u && built u
  nexuses.length * 24 ≤ probes.length

def eraseProbes (obs : Observation) (possibleActions : List PossibleAction) : List PossibleAction :=
  possibleActions.filter fun p => !(p.action == .trainProbe && stopProbes obs)

def maxTakenActions : List (AbilityId × Nat) := [
  (.buildForge, 1),
  (.buildCyberneticsCore, 1),
  (.buildNexus, 0),
  (.buildShieldBattery, 0),
  (.buildTwilightCouncil, 0),
  (.trainSentry, 2),
  (.trainWarpPrism, 0),
  (.trainObserver, 1),
  (.trainPhoenix, 0),
  (.trainProbe, 64)
]

def maxTakenActionsDefault : Nat := 5

def maxTaken (action : AbilityId) : Nat :=
  (maxTakenActions.lookup action).getD maxTakenActionsDefault

def taken (agent : TestAgent) (action : AbilityId) : Nat :=
  (agent.takenActions action).getD 0

def set (agent : TestAgent) (action : AbilityId) (n : Nat) : TestAgent :=
  { agent with takenActions := fun a => if a = action then some n else agent.takenActions a }

-- Reading a counter with `operator[]` adds it to the map.
def read (agent : TestAgent) (action : AbilityId) : TestAgent :=
  agent.set action (agent.taken action)

def eraseTaken (agent : TestAgent) : List PossibleAction → List PossibleAction × TestAgent
  | [] => ([], agent)
  | p :: possibleActions =>
    let erase := maxTaken p.action ≤ agent.taken p.action
    let rest := eraseTaken (agent.read p.action) possibleActions
    (if erase then rest.1 else p :: rest.1, rest.2)

def isNew (agent : TestAgent) (p : PossibleAction) : Bool :=
  (agent.takenActions p.action).isNone

def arrange (dice : Dice) (agent : TestAgent) (possibleActions : List PossibleAction)
    : List PossibleAction :=
  let partitioned := dice.partition.apply (possibleActions.filter fun p => !agent.isNew p)
  dice.partition.apply (possibleActions.filter agent.isNew) ++ dice.shuffle.apply partitioned

def gather (obs : Observation) : Program (List PossibleAction) := do
  announceCreated obs
  manageIdle obs
  assignToAssimilators obs
  findPossibleActions obs

def prepare (dice : Dice) (agent : TestAgent) (obs : Observation)
    : Program (List PossibleAction × TestAgent) := do
  let possibleActions ← gather obs
  let (possibleActions, agent) := agent.eraseTaken (eraseProbes obs possibleActions)
  return (agent.arrange dice possibleActions, agent)

def commandTasks (agent : TestAgent) : List Task → Program TestAgent
  | [] => return agent
  | task :: tasks => do
    Program.command (.commandTask task false)
    commandTasks (agent.set task.action (agent.taken task.action + 1)) tasks

def update (dice : Dice) (agent : TestAgent) (obs : Observation) : Program TestAgent := do
  let (possibleActions, agent) ← agent.prepare dice obs
  let tasks ← findPossibleTasks obs dice.offsets possibleActions
  agent.commandTasks tasks

end TestAgent

end Sc2
