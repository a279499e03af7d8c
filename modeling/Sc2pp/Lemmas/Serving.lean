import Sc2pp.Lemmas.Spots
import Sc2pp.Lemmas.TakenActions

/-!
This module contains how the test agent turns its candidates into tasks. In every step of every run each
candidate that is left after the counters were looked at is served in the order they were arranged in:
it is trained, it is sent to a geyser, it gets the first of its spots that is granted, or there is
nothing it can do.
-/

namespace Sc2

open Agent Utils

structure Nearest (pos : Point2D) (objects : Units) (u : Unit) : Prop where
  split : ∃ before after, objects = before ++ u :: after ∧
    (∀ v ∈ before, distSquared pos (.ofPoint3D u.pos) < distSquared pos (.ofPoint3D v.pos)) ∧
    ∀ v ∈ after, distSquared pos (.ofPoint3D u.pos) ≤ distSquared pos (.ofPoint3D v.pos)

theorem minElement_nearest {pos : Point2D} {before after units : Units} {smallest : Unit}
    (hbefore : ∀ v ∈ before,
      distSquared pos (.ofPoint3D smallest.pos) < distSquared pos (.ofPoint3D v.pos))
    (hafter : ∀ v ∈ after,
      distSquared pos (.ofPoint3D smallest.pos) ≤ distSquared pos (.ofPoint3D v.pos))
    : Nearest pos (before ++ smallest :: (after ++ units))
        (minElement (fun a b =>
          distSquared pos (.ofPoint3D a.pos) < distSquared pos (.ofPoint3D b.pos)) smallest units) := by
  induction units generalizing before after smallest with
  | nil =>
    rw [List.append_nil]
    exact ⟨before, after, rfl, hbefore, hafter⟩
  | cons u units ih =>
    rw [minElement]
    split
    . next hless =>
      rw [decide_eq_true_eq] at hless
      have hnearer : ∀ v ∈ before ++ smallest :: after,
          distSquared pos (.ofPoint3D u.pos) < distSquared pos (.ofPoint3D v.pos) := by
        intro v hv
        rw [List.mem_append, List.mem_cons] at hv
        rcases hv with hv | rfl | hv
        . exact hless.trans (hbefore v hv)
        . exact hless
        . exact hless.trans_le (hafter v hv)
      have hrest := @ih (before ++ smallest :: after) [] u hnearer (by simp)
      rwa [List.append_assoc] at hrest
    . next hless =>
      rw [decide_eq_true_eq, not_lt] at hless
      have hafter' : ∀ v ∈ after ++ [u],
          distSquared pos (.ofPoint3D smallest.pos) ≤ distSquared pos (.ofPoint3D v.pos) := by
        intro v hv
        rw [List.mem_append, List.mem_singleton] at hv
        rcases hv with hv | rfl
        . exact hafter v hv
        . exact hless
      have hrest := ih hbefore hafter'
      rwa [List.append_assoc] at hrest

theorem closest_nearest {pos : Point2D} {objects : Units} {u : Unit}
    (h : closest pos objects = .ok u) : Nearest pos objects u := by
  cases objects with
  | nil => cases h
  | cons v objects =>
    cases h
    exact @minElement_nearest pos [] [] objects v (by simp) (by simp)

namespace TestAgent

structure Assimilates (obs : Observation) (builder : Tag) (task : Task) : Prop where
  wanted : wantsAssimilator obs = true
  task : ∃ nexus geyser, (obs.unitsSelf.filter (type .protossNexus)).head? = some nexus ∧
    Nearest (.ofPoint3D nexus.pos) (freeGeysers obs) geyser ∧
    task = { executor := builder, action := .buildAssimilator, target := some (.tag geyser.tag) }

inductive Serves (obs : Observation) (offsets : Nat → Point2D) (x : PossibleAction)
    : List Intent → Option Task → Prop where
  | trains
    : isTrainingAbility x.action = true →
      Serves obs offsets x [] (some { executor := x.executor, action := x.action, target := none })
  | assimilates {task : Task}
    : x.action = .buildAssimilator → Assimilates obs x.executor task →
      Serves obs offsets x [] (some task)
  | assimilated
    : x.action = .buildAssimilator → wantsAssimilator obs = false → Serves obs offsets x [] none
  | builds {intents : List Intent} {found : Option Spot}
    : isTrainingAbility x.action = false → isBuildingAbility x.action = true →
      x.action ≠ .buildAssimilator → Scanned (spots obs offsets x.action) found intents →
      Serves obs offsets x intents (found.map (Spot.task x.executor))
  | passes
    : isTrainingAbility x.action = false → isBuildingAbility x.action = false →
      Serves obs offsets x [] none

inductive ServesAll (obs : Observation) (offsets : Nat → Nat → Point2D)
    : List PossibleAction → List Intent → List Task → Prop where
  | nil : ServesAll obs offsets [] [] []
  | cons {x : PossibleAction} {possibleActions : List PossibleAction} {intents intents' : List Intent}
    {task : Option Task} {tasks : List Task}
    : Serves obs (offsets possibleActions.length) x intents task →
      ServesAll obs offsets possibleActions intents' tasks →
      ServesAll obs offsets (x :: possibleActions) (intents ++ intents') (task.toList ++ tasks)

theorem buildAssimilator_cases {obs : Observation} {builder : Tag} {task : Option Task}
    (h : buildAssimilator obs builder = .ok task)
    : (task = none ∧ wantsAssimilator obs = false) ∨
      ∃ t, task = some t ∧ Assimilates obs builder t := by
  have hwanted := (buildAssimilator_eq_ok h).1
  cases task with
  | none => exact .inl ⟨rfl, hwanted.symm⟩
  | some t =>
    refine .inr ⟨t, rfl, hwanted.symm, ?_⟩
    unfold buildAssimilator at h
    simp only at h
    split at h
    . cases h
    . split at h
      . cases h
      . simp only [Outcome.bind_eq_ok, Outcome.pure_eq_ok, Except.ok.injEq, Option.some.injEq] at h
        rcases h with ⟨nexus, hnexus, geyser, hgeyser, rfl⟩
        refine ⟨nexus, geyser, ?_, closest_nearest hgeyser, rfl⟩
        cases hnexuses : obs.unitsSelf.filter (type .protossNexus) with
        | nil =>
          rw [hnexuses] at hnexus
          cases hnexus
        | cons nexus' nexuses =>
          rw [hnexuses] at hnexus
          cases hnexus
          rfl

theorem findPossibleTask_serves (obs : Observation) (offsets : Nat → Point2D) (x : PossibleAction)
    : (findPossibleTask obs offsets x).Ensures (Serves obs offsets x) := by
  unfold findPossibleTask
  split
  . next htraining =>
    apply Program.Ensures.pure
    exact .trains htraining
  . next htraining =>
    rw [Bool.not_eq_true] at htraining
    split
    . next hbuilding =>
      split
      . next hassimilator =>
        apply Program.Ensures.lift
        intro task htask
        rcases buildAssimilator_cases htask with ⟨rfl, hwanted⟩ | ⟨t, rfl, hassimilates⟩
        . exact .assimilated hassimilator hwanted
        . exact .assimilates hassimilator hassimilates
      . next hassimilator =>
        split
        . next hpylon =>
          apply (buildPylon_scanned obs offsets x.executor false).imp
          intro intents task h
          rcases h with ⟨found, rfl, h⟩
          apply Serves.builds htraining hbuilding hassimilator
          unfold spots
          rw [if_pos hpylon]
          exact h
        . next hpylon =>
          apply (findAnchorPoint_scanned obs x.action).bind
          intro intents pos hpos
          rcases hpos with ⟨found, rfl, hfound⟩
          cases found with
          | some spot =>
            apply Program.Ensures.pure
            rw [List.append_nil]
            have hspot := building_of_anchorSpots hfound.mem
            have htask : some ({
                executor := x.executor
                action := x.action
                target := some (.point spot.pos)
              } : Task) = (some spot).map (Spot.task x.executor) := by
              rw [← hspot]
              rfl
            rw [htask]
            apply Serves.builds htraining hbuilding hassimilator
            unfold spots
            rw [if_neg hpylon]
            apply hfound.stop
          | none =>
            apply (buildPylon_scanned obs offsets x.executor true).imp
            intro intents' task h
            rcases h with ⟨found, rfl, h⟩
            apply Serves.builds htraining hbuilding hassimilator
            unfold spots
            rw [if_neg hpylon]
            exact hfound.append h
    . next hbuilding =>
      apply Program.Ensures.pure
      apply Serves.passes htraining
      simpa using hbuilding

theorem findPossibleTasks_serves (obs : Observation) (offsets : Nat → Nat → Point2D)
    (possibleActions : List PossibleAction)
    : (findPossibleTasks obs offsets possibleActions).Ensures
        (ServesAll obs offsets possibleActions) := by
  induction possibleActions with
  | nil => exact .pure .nil
  | cons x possibleActions ih =>
    rw [findPossibleTasks]
    apply (findPossibleTask_serves obs _ x).bind
    intro intents task htask
    apply ih.bind
    intro intents' tasks htasks
    apply Program.Ensures.pure
    rw [List.append_nil]
    exact .cons htask htasks

theorem commandTasks_intents (agent : TestAgent) (tasks : List Task)
    : (agent.commandTasks tasks).Ensures fun intents _ =>
        intents = tasks.map fun task => .act (.commandTask task false) := by
  induction tasks generalizing agent with
  | nil => exact .pure rfl
  | cons task tasks ih =>
    rw [commandTasks]
    apply Program.Ensures.command_bind
    apply (ih _).imp
    intro intents _ h
    rw [h, List.map_cons]

structure Accounts (taken : AbilityId → Nat) (step : Step) (asked placed : List Intent)
    (candidates : List PossibleAction) (tasks : List Task) : Prop where
  intents : step.intents
    = asked ++ (placed ++ tasks.map fun task => .act (.commandTask task false))
  noTasks : Intent.tasks asked = []
  noGrants : granted asked = []
  arranged : candidates
    = step.dice.shuffle.apply (step.dice.partition.apply (eligible taken step.obs (offered asked)))
  served : ServesAll step.obs step.dice.offsets candidates placed tasks

theorem update_accounts {agent agent' : TestAgent} {step : Step}
    (h : Plays [] (agent.update step.dice step.obs) step.intents agent')
    : ∃ asked placed candidates tasks, Accounts agent.taken step asked placed candidates tasks ∧
        ∃ prepared, Plays [] (agent.prepare step.dice step.obs) asked prepared := by
  unfold update at h
  rcases plays_bind_iff.mp h with ⟨prepared, asked, _, hprepare, hrest, hasked⟩
  rcases plays_bind_iff.mp hrest with ⟨tasks, placed, issued, hfind, hcommand, rfl⟩
  have hprepared := (prepare_ensures step.dice agent step.obs).plays _ _ _ hprepare
  have hserved := (findPossibleTasks_serves step.obs step.dice.offsets prepared.1).plays _ _ _ hfind
  have hissued := (commandTasks_intents prepared.2 tasks).plays _ _ _ hcommand
  rw [hissued] at hasked
  exact ⟨asked, placed, prepared.1, tasks, ⟨hasked, hprepared.noTasks, hprepared.noGrants,
    hprepared.possibleActions, hserved⟩, prepared, hprepare⟩

def spot? (task : Task) : Option Spot :=
  match task.target with
  | some (.point pos) => some ⟨task.action, pos⟩
  | _ => none

def grantedSpot? : Query.Call × Query.Answer → Option Spot
  | (.placement building pos _, .placement true) => some ⟨building, pos⟩
  | _ => none

theorem grant?_eq (e : Query.Call × Query.Answer)
    : grant? e = (grantedSpot? e).map Spot.building := by
  rcases e with ⟨call, answer⟩
  cases call with
  | placement building pos ignore =>
    cases answer with
    | placement possible => cases possible <;> rfl
    | _ => rfl
  | _ => rfl

theorem Scanned.granted {spots : List Spot} {found : Option Spot} {intents : List Intent}
    (h : Scanned spots found intents)
    : (Intent.answered intents).filterMap grantedSpot? = found.toList := by
  rcases h.answered with ⟨denied, rest, -, -, hanswered⟩
  have hdenied : (denied.map Spot.denied).filterMap grantedSpot? = [] := by
    rw [List.filterMap_map, List.filterMap_eq_nil_iff]
    intro spot _
    rfl
  rw [hanswered, List.filterMap_append, hdenied]
  cases found <;> rfl

theorem Serves.granted {obs : Observation} {offsets : Nat → Point2D} {x : PossibleAction}
    {intents : List Intent} {task : Option Task} (h : Serves obs offsets x intents task)
    : (Intent.answered intents).filterMap grantedSpot? = task.toList.filterMap spot? := by
  cases h with
  | trains _ => rfl
  | assimilates _ hassimilates =>
    rcases hassimilates.task with ⟨nexus, geyser, -, -, rfl⟩
    rfl
  | assimilated _ _ => rfl
  | @builds _ found _ _ _ hscanned =>
    rw [hscanned.granted]
    cases found <;> rfl
  | passes _ _ => rfl

theorem ServesAll.granted {obs : Observation} {offsets : Nat → Nat → Point2D}
    {possibleActions : List PossibleAction} {intents : List Intent} {tasks : List Task}
    (h : ServesAll obs offsets possibleActions intents tasks)
    : (Intent.answered intents).filterMap grantedSpot? = tasks.filterMap spot? := by
  induction h with
  | nil => rfl
  | cons hserves _ ih =>
    rw [Intent.answered_append, List.filterMap_append, List.filterMap_append, hserves.granted, ih]

theorem Serves.source {obs : Observation} {offsets : Nat → Point2D} {x : PossibleAction}
    {intents : List Intent} {found : Option Task} (h : Serves obs offsets x intents found) {task : Task}
    (htask : found = some task)
    : task.executor = x.executor ∧ (task.action = x.action ∨ task.action = .buildPylon) := by
  cases h with
  | trains _ =>
    cases htask
    exact ⟨rfl, .inl rfl⟩
  | assimilates haction hassimilates =>
    cases htask
    rcases hassimilates.task with ⟨nexus, geyser, -, -, rfl⟩
    exact ⟨rfl, .inl haction.symm⟩
  | assimilated _ _ => cases htask
  | builds _ _ _ hscanned =>
    rcases Option.map_eq_some_iff.mp htask with ⟨spot, rfl, rfl⟩
    exact ⟨rfl, building_of_spots hscanned.mem⟩
  | passes _ _ => cases htask

theorem ServesAll.source {obs : Observation} {offsets : Nat → Nat → Point2D}
    {possibleActions : List PossibleAction} {intents : List Intent} {tasks : List Task}
    (h : ServesAll obs offsets possibleActions intents tasks) {task : Task} (htask : task ∈ tasks)
    : ∃ x ∈ possibleActions, task.executor = x.executor ∧
        (task.action = x.action ∨ task.action = .buildPylon) := by
  induction h with
  | nil => cases htask
  | @cons x possibleActions intents intents' found tasks hserves _ ih =>
    rcases List.mem_append.mp htask with htask | htask
    . exact ⟨x, List.mem_cons_self, hserves.source (Option.mem_toList.mp htask)⟩
    . rcases ih htask with ⟨x', hx', hsource⟩
      exact ⟨x', List.mem_cons_of_mem x hx', hsource⟩

section

variable {taken : AbilityId → Nat} {step : Step} {asked placed : List Intent}
  {candidates : List PossibleAction} {tasks : List Task}

theorem tasks_commands (tasks : List Task)
    : Intent.tasks (tasks.map fun task => .act (.commandTask task false)) = tasks := by
  unfold Intent.tasks
  rw [List.filterMap_map]
  apply List.filterMap_some

theorem answered_commands (tasks : List Task)
    : Intent.answered (tasks.map fun task => .act (.commandTask task false)) = [] := by
  unfold Intent.answered
  rw [List.filterMap_map, List.filterMap_eq_nil_iff]
  intro task _
  rfl

theorem ServesAll.noCalls {obs : Observation} {offsets : Nat → Nat → Point2D}
    (h : ServesAll obs offsets candidates placed tasks) : Intent.calls placed = [] := by
  induction h with
  | nil => rfl
  | cons hserves _ ih =>
    rw [Intent.calls_append, ih, List.append_nil]
    cases hserves with
    | builds _ _ _ hscanned => exact hscanned.noCalls
    | _ => rfl

theorem tasks_of_calls {intents : List Intent} (h : Intent.calls intents = [])
    : Intent.tasks intents = [] := by
  induction intents with
  | nil => rfl
  | cons intent intents ih =>
    cases intent with
    | act call => cases h
    | query call log => exact ih h

theorem Accounts.tasks_eq (h : Accounts taken step asked placed candidates tasks)
    : Intent.tasks step.intents = tasks := by
  rw [h.intents, Intent.tasks_append, Intent.tasks_append, h.noTasks,
    tasks_of_calls h.served.noCalls, tasks_commands]
  rfl

theorem Accounts.granted (h : Accounts taken step asked placed candidates tasks)
    : (Intent.tasks step.intents).filterMap spot?
        =
      (Intent.answered step.intents).filterMap grantedSpot? := by
  have hasked : (Intent.answered asked).filterMap grantedSpot? = [] := by
    have hnone := h.noGrants
    unfold TestAgent.granted at hnone
    rw [funext grant?_eq, ← List.map_filterMap, List.map_eq_nil_iff] at hnone
    exact hnone
  rw [h.tasks_eq, h.intents, Intent.answered_append, Intent.answered_append, answered_commands,
    List.append_nil, List.filterMap_append, hasked, List.nil_append, h.served.granted]

theorem Accounts.unspent (h : Accounts taken step asked placed candidates tasks) {a : AbilityId}
    (ha : a ≠ .buildPylon) (hfull : maxTaken a ≤ taken a)
    : (Intent.tasks step.intents).countP (·.action == a) = 0 := by
  rw [h.tasks_eq, List.countP_eq_zero]
  intro task htask heq
  rw [beq_iff_eq] at heq
  rcases h.served.source htask with ⟨x, hx, -, haction⟩
  rw [h.arranged, Reordering.mem_apply, Reordering.mem_apply] at hx
  have heligible := (List.mem_filter.mp hx).2
  rw [Bool.and_eq_true, decide_eq_true_eq] at heligible
  rcases haction with haction | haction
  . rw [← haction, heq] at heligible
    omega
  . exact ha (heq.symm.trans haction)

end

def busyProbe : Unit :=
  Proto.Unit.withOrders { tag := some 3, unitType := some UnitTypeId.protossProbe.val.toUInt32 }
    [{ abilityId := .harvestGather, target := .tag 4, progress := 0 }]

def unbuiltNexus : Unit :=
  Proto.Unit.withOrders { tag := some 4, unitType := some UnitTypeId.protossNexus.val.toUInt32 } []

def colony : Observation :=
  { Observation.new default [] [] with self := [unbuiltNexus, busyProbe] }

def pylonSpot : Spot where
  building := .buildPylon
  pos := randPointNear (calmDice.offsets 0 0) (.ofPoint3D unbuiltNexus.pos)

def answering (call : Query.Call) (reply : Proto.ResponseQuery) : Intent :=
  .query call (call.requests.map fun request => (request, some { payload := some (.query reply) }))

def buildingPylon : Step where
  obs := colony
  dice := calmDice
  intents := [
    answering (.abilities [] false) {},
    answering (.abilitiesOfUnit busyProbe false) {
      abilities := [{ abilities := [{ abilityId := some AbilityId.buildPylon.val }], unitTag := some 3 }]
    },
    answering pylonSpot.call { placements := [{ result := some .success }] },
    .act (.commandTask (pylonSpot.task 3) false)
  ]

def afterPylon : TestAgent :=
  (({} : TestAgent).read .buildPylon).set .buildPylon 1

theorem runs_buildingPylon : Runs {} [buildingPylon] afterPylon := by
  apply Runs.cons _ (.nil _)
  apply Plays.answer
  . exact .done _
  apply Plays.answer
  . exact .ask _ _ _ (.done _)
  apply Plays.answer
  . exact .ask _ _ _ (.done _)
  exact .act (.done _ _)

def refusing (offers : List PossibleAction) : Step where
  obs := facilities
  dice := calmDice
  intents := [offering offers]

theorem runs_refused
    : Runs {} ([observerTwice] ++ [refusing [⟨.trainObserver, 1⟩]])
        (afterObservers.read .trainObserver) := by
  apply runs_append_iff.mpr
  refine ⟨afterObservers, runs_observerTwice, .cons ?_ (.nil _)⟩
  apply Plays.answer
  . exact .ask _ _ _ (.done _)
  . exact .done _ _

theorem runs_serve {before after : List Step} {step : Step} {agent : TestAgent}
    (h : Runs {} (before ++ step :: after) agent)
    : ∃ asked placed candidates tasks,
        Accounts (commanded before) step asked placed candidates tasks := by
  rcases step_of_runs h with ⟨agent₁, agent₂, hbefore, hplays⟩
  rw [← taken_eq_commanded hbefore]
  rcases update_accounts hplays with ⟨asked, placed, candidates, tasks, haccounts, -⟩
  exact ⟨asked, placed, candidates, tasks, haccounts⟩

theorem runs_serve_pylon
    : ∃ asked placed candidates tasks,
        Accounts (commanded []) buildingPylon asked placed candidates tasks := by
  apply @runs_serve [] [] buildingPylon afterPylon runs_buildingPylon

theorem runs_granted {steps : List Step} {agent agent' : TestAgent} (h : Runs agent steps agent')
    : ∀ step ∈ steps, (Intent.tasks step.intents).filterMap spot?
        =
      (Intent.answered step.intents).filterMap grantedSpot? := by
  induction h with
  | nil agent => simp
  | cons hplays _ ih =>
    rw [List.forall_mem_cons]
    refine ⟨?_, ih⟩
    rcases update_accounts hplays with ⟨asked, placed, candidates, tasks, haccounts, -⟩
    exact haccounts.granted

theorem runs_granted_pylon
    : (Intent.tasks buildingPylon.intents).filterMap spot?
        =
      (Intent.answered buildingPylon.intents).filterMap grantedSpot? := by
  apply runs_granted runs_buildingPylon
  apply List.mem_singleton_self

theorem commanded_of_full {steps : List Step} {agent agent' : TestAgent}
    (h : Runs agent steps agent') {a : AbilityId} (ha : a ≠ .buildPylon)
    (hfull : maxTaken a ≤ agent.taken a) : commanded steps a = 0 := by
  induction h with
  | nil agent => rfl
  | cons hplays _ ih =>
    rcases update_accounts hplays with ⟨asked, placed, candidates, tasks, haccounts, -⟩
    have hnone := haccounts.unspent ha hfull
    have htaken := (updated_of_plays hplays).taken a
    rw [hnone, Nat.add_zero] at htaken
    rw [commanded_cons, hnone, ih (htaken.symm ▸ hfull)]

theorem commanded_frozen {before after : List Step} {agent : TestAgent}
    (h : Runs {} (before ++ after) agent) {a : AbilityId} (ha : a ≠ .buildPylon)
    (hfull : maxTaken a ≤ commanded before a)
    : commanded (before ++ after) a = commanded before a := by
  rcases runs_append_iff.mp h with ⟨agent₁, hbefore, hafter⟩
  rw [← taken_eq_commanded hbefore] at hfull
  rw [commanded_append, commanded_of_full hafter ha hfull, Nat.add_zero]

theorem commanded_frozen_observers
    : commanded ([observerTwice] ++ [refusing [⟨.trainObserver, 1⟩]]) .trainObserver
        =
      commanded [observerTwice] .trainObserver := by
  apply commanded_frozen runs_refused (by decide)
  decide

end TestAgent

end Sc2
