import Sc2pp.Lemmas.Serving

/-!
This module contains the batch an update of the test agent leaves behind, and how many requests it takes
to get there. The orders of the batch are in the order in which they were given: what was created is
announced, idle probes and the probes for new assimilators are sent off, then come the tasks.
-/

namespace Sc2

open Agent Utils

namespace Agent.Program

theorem Ensures.forM_acts {α β : Type} {xs : List α} {f : α → Program PUnit} {R : α → β → Prop}
    {c : α → β → Actions.Call}
    (hf : ∀ x, (f x).Ensures fun intents _ => ∃ y, R x y ∧ intents = [.act (c x y)])
    : (xs.forM f).Ensures fun intents _ =>
        ∃ ys, List.Forall₂ R xs ys ∧ intents = (List.zipWith c xs ys).map .act := by
  induction xs with
  | nil => exact .pure ⟨[], .nil, rfl⟩
  | cons x xs ih =>
    apply (hf x).bind
    intro intents _ h
    rcases h with ⟨y, hy, rfl⟩
    apply ih.imp
    intro intents' _ h'
    rcases h' with ⟨ys, hys, rfl⟩
    exact ⟨y :: ys, .cons hy hys, rfl⟩

end Agent.Program

namespace TestAgent

def announcement (obs : Observation) : List Actions.Call :=
  if obs.unitsCreated.isEmpty then
    []
  else
    [.chat (String.join (obs.unitsCreated.map createdString)) .broadcast]

def nearMinerals (obs : Observation) : Units :=
  (obs.units.filter (type .neutralMineralField)).filter fun m =>
    (obs.unitsSelf.filter (type .protossNexus)).any fun n =>
      distSquared (.ofPoint3D m.pos) (.ofPoint3D n.pos) < 100

def idleProbes (obs : Observation) : Units :=
  obs.unitsSelf.filter fun u => type .protossProbe u && idle u

def gatherCall (probe resource : Unit) : Actions.Call :=
  .commandUnitUnit probe .harvestGather resource false

def assignments (obs : Observation) : List Actions.Call :=
  List.zipWith gatherCall (obs.unitsSelf.filter (type .protossProbe))
    (obs.unitsCreated.filter (type .protossAssimilator))

theorem announceCreated_acts (obs : Observation)
    : (announceCreated obs).Ensures fun intents _ =>
        intents = (announcement obs).map .act := by
  unfold announceCreated announcement
  split
  . exact .pure rfl
  . exact .command rfl

theorem manageIdle_eq (obs : Observation)
    : manageIdle obs
        =
      (idleProbes obs).forM fun u =>
        (liftM (closest (.ofPoint3D u.pos) (nearMinerals obs)) : Program Unit) >>= fun mineral =>
          Program.command (gatherCall u mineral) := by
  rfl

theorem manageIdle_acts (obs : Observation)
    : (manageIdle obs).Ensures fun intents _ => ∃ minerals,
        List.Forall₂ (fun probe mineral => Nearest (.ofPoint3D probe.pos) (nearMinerals obs) mineral)
          (idleProbes obs) minerals ∧
        intents = (List.zipWith gatherCall (idleProbes obs) minerals).map .act := by
  unfold manageIdle
  apply Program.Ensures.forM_acts
  intro probe
  apply Program.Ensures.lift_bind
  intro mineral hmineral
  exact .command ⟨mineral, closest_nearest hmineral, rfl⟩

theorem assignToAssimilators_acts (obs : Observation)
    : (assignToAssimilators obs).Ensures fun intents _ =>
        intents = (assignments obs).map .act := by
  have hforM : (assignToAssimilators obs).Ensures fun intents _ => ∃ es,
      List.Forall₂ (· = ·)
        ((obs.unitsSelf.filter (type .protossProbe)).zip
          (obs.unitsCreated.filter (type .protossAssimilator))) es ∧
      intents = (List.zipWith (fun (e _ : Unit × Unit) => gatherCall e.1 e.2)
        ((obs.unitsSelf.filter (type .protossProbe)).zip
          (obs.unitsCreated.filter (type .protossAssimilator))) es).map .act := by
    unfold assignToAssimilators
    apply Program.Ensures.forM_acts
    intro e
    exact .command ⟨e, rfl, rfl⟩
  apply hforM.imp
  intro intents _ h
  rcases h with ⟨es, hes, rfl⟩
  rw [List.forall₂_eq_eq_eq] at hes
  subst hes
  rw [List.zipWith_self]
  unfold assignments
  rw [← List.map_uncurry_zip_eq_zipWith]
  rfl

structure Asked (n : Nat) (intents : List Intent) : Prop where
  noCalls : Intent.calls intents = []
  requests : (Intent.requests intents).length ≤ n

theorem Asked.append {n n' : Nat} {intents intents' : List Intent} (h : Asked n intents)
    (h' : Asked n' intents') : Asked (n + n') (intents ++ intents') where
  noCalls := by rw [Intent.calls_append, h.noCalls, h'.noCalls, List.append_nil]
  requests := by
    have hle := h.requests
    have hle' := h'.requests
    rw [Intent.requests_append, List.length_append]
    omega

theorem Asked.imp {n n' : Nat} {intents : List Intent} (h : Asked n intents) (hle : n ≤ n')
    : Asked n' intents where
  noCalls := h.noCalls
  requests := h.requests.trans hle

theorem requests_length (call : Query.Call) : call.requests.length ≤ 1 := by
  rcases call.run_cases with ⟨hrequests, -⟩ | ⟨request, f, hrequests, -⟩
  . simp [hrequests]
  . simp [hrequests]

theorem asking_asked {α : Type} (call : Query.Call) (f : Query.Answer → Option α)
    : (Program.asking call f).Ensures fun intents _ => Asked 1 intents := by
  apply Program.Ensures.asking
  intro log answer a _ _
  refine ⟨rfl, ?_⟩
  simpa [Intent.requests] using requests_length call

theorem findPossibleActions_asked (obs : Observation)
    : (findPossibleActions obs).Ensures fun intents _ => Asked 2 intents := by
  unfold findPossibleActions
  simp only
  apply (asking_asked _ _).bind
  intro intents found h
  split
  . apply Program.Ensures.pure
    rw [List.append_nil]
    exact h.imp (by omega)
  . apply (asking_asked _ _).bind
    intro intents' found' h'
    apply Program.Ensures.pure
    rw [List.append_nil]
    exact h.append h'

structure Gathered (obs : Observation) (minerals : Units) (intents : List Intent) : Prop where
  nearest : List.Forall₂
    (fun probe mineral => Nearest (.ofPoint3D probe.pos) (nearMinerals obs) mineral)
    (idleProbes obs) minerals
  calls : Intent.calls intents
    = announcement obs ++ List.zipWith gatherCall (idleProbes obs) minerals ++ assignments obs
  requests : (Intent.requests intents).length ≤ 2

theorem calls_acts (calls : List Actions.Call) : Intent.calls (calls.map .act) = calls := by
  induction calls with
  | nil => rfl
  | cons call calls ih => rw [List.map_cons, Intent.calls, ih]

theorem requests_acts (calls : List Actions.Call) : Intent.requests (calls.map .act) = [] := by
  induction calls with
  | nil => rfl
  | cons call calls ih => rw [List.map_cons, Intent.requests, ih]

theorem gather_gathered (obs : Observation)
    : (gather obs).Ensures fun intents _ => ∃ minerals, Gathered obs minerals intents := by
  unfold gather
  apply (announceCreated_acts obs).bind
  intro announced _ hannounced
  apply (manageIdle_acts obs).bind
  intro managed _ hmanaged
  apply (assignToAssimilators_acts obs).bind
  intro assigned _ hassigned
  apply (findPossibleActions_asked obs).imp
  intro asked _ hasked
  rcases hmanaged with ⟨minerals, hnearest, rfl⟩
  subst hannounced
  subst hassigned
  refine ⟨minerals, hnearest, ?_, ?_⟩
  . simp only [Intent.calls_append, calls_acts, hasked.noCalls, List.append_nil, List.append_assoc]
  . simp only [Intent.requests_append, requests_acts, List.nil_append]
    exact hasked.requests

theorem prepare_gathered (dice : Dice) (agent : TestAgent) (obs : Observation)
    : (prepare dice agent obs).Ensures fun intents _ => ∃ minerals, Gathered obs minerals intents := by
  unfold prepare
  apply (gather_gathered obs).bind
  intro intents found h
  apply Program.Ensures.pure
  rwa [List.append_nil]

structure Batched (step : Step) (minerals : Units) : Prop where
  nearest : List.Forall₂
    (fun probe mineral => Nearest (.ofPoint3D probe.pos) (nearMinerals step.obs) mineral)
    (idleProbes step.obs) minerals
  calls : Intent.calls step.intents
    = announcement step.obs ++ List.zipWith gatherCall (idleProbes step.obs) minerals ++
      assignments step.obs ++
      (Intent.tasks step.intents).map fun task => .commandTask task false

theorem update_batched {agent agent' : TestAgent} {step : Step}
    (h : Plays [] (agent.update step.dice step.obs) step.intents agent')
    : ∃ minerals, Batched step minerals := by
  rcases update_accounts h with ⟨asked, placed, candidates, tasks, haccounts, prepared, hprepare⟩
  rcases (prepare_gathered step.dice agent step.obs).plays _ _ _ hprepare with ⟨minerals, hgathered⟩
  refine ⟨minerals, hgathered.nearest, ?_⟩
  have hissued : (tasks.map fun task => Intent.act (.commandTask task false))
      = (tasks.map fun task => .commandTask task false).map .act := by
    rw [List.map_map]
    rfl
  rw [haccounts.tasks_eq, haccounts.intents, Intent.calls_append, Intent.calls_append,
    haccounts.served.noCalls, hgathered.calls, hissued, calls_acts, List.nil_append]

theorem runs_batched {steps : List Step} {agent agent' : TestAgent} (h : Runs agent steps agent')
    : ∀ step ∈ steps, ∃ minerals, Batched step minerals := by
  induction h with
  | nil agent => simp
  | cons hplays _ ih =>
    rw [List.forall_mem_cons]
    exact ⟨update_batched hplays, ih⟩

def idleProbe : Unit :=
  Proto.Unit.withOrders { tag := some 3, unitType := some UnitTypeId.protossProbe.val.toUInt32 } []

def newAssimilator : Unit :=
  Proto.Unit.withOrders { tag := some 5, unitType := some UnitTypeId.protossAssimilator.val.toUInt32 } []

def mineralAt (tag : Tag) (x : Rat) : Unit :=
  Proto.Unit.withOrders {
    tag := some tag
    unitType := some UnitTypeId.neutralMineralField.val.toUInt32
    pos := some { x := some x }
  } []

def mining : Observation :=
  { Observation.new default [] [] with
    unitPool := { units := [mineralAt 6 7, mineralAt 7 6] }
    created := [newAssimilator]
    self := [unbuiltNexus, idleProbe, newAssimilator] }

def miningAndBuilding : Step where
  obs := mining
  dice := calmDice
  intents := [
    .act (.chat (createdString newAssimilator) .broadcast),
    .act (gatherCall idleProbe (mineralAt 7 6)),
    .act (gatherCall idleProbe newAssimilator),
    answering (.abilities [] false) {},
    answering (.abilitiesOfUnit idleProbe false) {
      abilities := [{ abilities := [{ abilityId := some AbilityId.buildPylon.val }], unitTag := some 3 }]
    },
    answering pylonSpot.call { placements := [{ result := some .success }] },
    .act (.commandTask (pylonSpot.task 3) false)
  ]

theorem manageIdle_mining
    : manageIdle mining = Program.command (gatherCall idleProbe (mineralAt 7 6)) := by
  have hminerals : nearMinerals mining = [mineralAt 6 7, mineralAt 7 6] := by decide +kernel
  have hclosest : closest (.ofPoint3D idleProbe.pos) [mineralAt 6 7, mineralAt 7 6]
      = .ok (mineralAt 7 6) := by decide +kernel
  have hprobes : idleProbes mining = [idleProbe] := by rfl
  rw [manageIdle_eq, hprobes, hminerals]
  unfold List.forM
  rw [hclosest]
  rfl

theorem runs_miningAndBuilding : Runs {} [miningAndBuilding] afterPylon := by
  apply Runs.cons _ (.nil _)
  change Plays [] (({} : TestAgent).update calmDice mining) _ _
  unfold update prepare gather
  rw [manageIdle_mining]
  apply Plays.act
  apply Plays.act
  apply Plays.act
  apply Plays.answer
  . exact .done _
  apply Plays.answer
  . exact .ask _ _ _ (.done _)
  apply Plays.answer
  . exact .ask _ _ _ (.done _)
  exact .act (.done _ _)

theorem runs_batched_mining
    : ∃ minerals, Batched miningAndBuilding minerals ∧ minerals.length = 1 ∧
        announcement mining ≠ [] ∧ assignments mining = [gatherCall idleProbe newAssimilator] ∧
        Intent.tasks miningAndBuilding.intents = [pylonSpot.task 3] := by
  rcases runs_batched runs_miningAndBuilding _ (List.mem_singleton_self _) with ⟨minerals, hbatched⟩
  have hidle : (idleProbes mining).length = 1 := by rfl
  have hannounced : announcement mining ≠ [] := by decide
  refine ⟨minerals, hbatched, ?_, hannounced, rfl, rfl⟩
  rw [← hbatched.nearest.length_eq]
  exact hidle

theorem length_tileSpots (building : AbilityId) (pylon : Unit)
    : (tileSpots building pylon).length ≤ 530 := by
  have hreach : |pylonRadius + 3|.ceil = 10 := by decide +kernel
  have hbox : (BuildPos.box (.ofPoint3D pylon.pos) pylonRadius).length = 529 := by
    unfold BuildPos.box
    rw [List.length_map, hreach, length_pixels]
    rfl
  have hlater : (BuildPos.laterTiles (.ofPoint3D pylon.pos) pylonRadius).length
      ≤ (BuildPos.box (.ofPoint3D pylon.pos) pylonRadius).length := by
    apply Search.length_sweep_le
  unfold tileSpots
  rw [List.length_map, BuildPos.tiles_eq_cons, List.length_cons]
  omega

theorem length_flatMap_le {α β : Type} {f : α → List β} {n : Nat} (h : ∀ x, (f x).length ≤ n)
    (xs : List α) : (xs.flatMap f).length ≤ n * xs.length := by
  induction xs with
  | nil => exact Nat.zero_le _
  | cons x xs ih =>
    have hx := h x
    rw [List.flatMap_cons, List.length_append, List.length_cons, Nat.mul_succ]
    omega

def builtPylons (obs : Observation) : Units :=
  (obs.unitsSelf.filter (type .protossPylon)).filter built

def maxSpots (obs : Observation) : Nat :=
  530 * (builtPylons obs).length + 100

theorem length_pylonSpots (obs : Observation) (offsets : Nat → Point2D)
    : (pylonSpots obs offsets).length ≤ 100 := by
  unfold pylonSpots
  split
  . exact Nat.zero_le _
  . rw [List.length_map, List.length_range]

theorem length_spots (obs : Observation) (offsets : Nat → Point2D) (action : AbilityId)
    : (spots obs offsets action).length ≤ maxSpots obs := by
  have hanchor : (anchorSpots obs action).length ≤ 530 * (builtPylons obs).length :=
    length_flatMap_le (length_tileSpots action) _
  have hpylon := length_pylonSpots obs offsets
  unfold spots maxSpots
  split
  . omega
  . rw [List.length_append]
    split
    . rw [List.length_nil]
      omega
    . omega

theorem Scanned.requests_le {spots : List Spot} {found : Option Spot} {intents : List Intent}
    (h : Scanned spots found intents) : (Intent.requests intents).length ≤ spots.length := by
  rcases h.answered with ⟨denied, rest, rfl, -, hanswered⟩
  rw [h.requests, hanswered]
  have hle := length_flatMap_le (fun e : Query.Call × Query.Answer => requests_length e.1)
    (denied.map Spot.denied ++ found.toList.map Spot.granted)
  simp only [List.length_append, List.length_map] at hle ⊢
  omega

theorem ServesAll.requests_le {obs : Observation} {offsets : Nat → Nat → Point2D}
    {possibleActions : List PossibleAction} {intents : List Intent} {tasks : List Task}
    (h : ServesAll obs offsets possibleActions intents tasks)
    : (Intent.requests intents).length ≤ maxSpots obs * possibleActions.length := by
  induction h with
  | nil => exact Nat.zero_le _
  | @cons x possibleActions intents intents' task tasks hserves _ ih =>
    have hx : (Intent.requests intents).length ≤ maxSpots obs := by
      cases hserves with
      | builds _ _ _ hscanned => exact hscanned.requests_le.trans (length_spots obs _ x.action)
      | _ => exact Nat.zero_le _
    rw [Intent.requests_append, List.length_append, List.length_cons, Nat.mul_succ]
    omega

theorem Scanned.noOffers {spots : List Spot} {found : Option Spot} {intents : List Intent}
    (h : Scanned spots found intents) : offered intents = [] := by
  rcases h.answered with ⟨denied, rest, rfl, -, hanswered⟩
  unfold offered
  rw [hanswered, List.flatMap_eq_nil_iff]
  intro e he
  rcases List.mem_append.mp he with he | he
  . rcases List.mem_map.mp he with ⟨spot, -, rfl⟩
    rfl
  . rcases List.mem_map.mp he with ⟨spot, -, rfl⟩
    rfl

theorem ServesAll.noOffers {obs : Observation} {offsets : Nat → Nat → Point2D}
    {possibleActions : List PossibleAction} {intents : List Intent} {tasks : List Task}
    (h : ServesAll obs offsets possibleActions intents tasks) : offered intents = [] := by
  induction h with
  | nil => rfl
  | cons hserves _ ih =>
    rw [offered_append, ih, List.append_nil]
    cases hserves with
    | builds _ _ _ hscanned => exact hscanned.noOffers
    | _ => rfl

theorem update_requests_le {agent agent' : TestAgent} {step : Step}
    (h : Plays [] (agent.update step.dice step.obs) step.intents agent')
    : (Intent.requests step.intents).length
        ≤ 2 + maxSpots step.obs * (eligible agent.taken step.obs (offered step.intents)).length := by
  rcases update_accounts h with ⟨asked, placed, candidates, tasks, haccounts, prepared, hprepare⟩
  rcases (prepare_gathered step.dice agent step.obs).plays _ _ _ hprepare with ⟨minerals, hgathered⟩
  have hplaced := haccounts.served.requests_le
  have hasked := hgathered.requests
  have hoffered : offered step.intents = offered asked := by
    have hcommands : offered (tasks.map fun task => .act (.commandTask task false)) = [] := by
      rw [offered, answered_commands, List.flatMap_nil]
    rw [haccounts.intents, offered_append, offered_append, haccounts.served.noOffers, hcommands,
      List.append_nil, List.append_nil]
  have hissued : Intent.requests (tasks.map fun task => .act (.commandTask task false)) = [] := by
    have hmap := requests_acts (tasks.map fun task => .commandTask task false)
    rwa [List.map_map] at hmap
  have hcandidates : candidates.length = (eligible agent.taken step.obs (offered asked)).length := by
    rw [haccounts.arranged, (step.dice.shuffle.perm _).length_eq,
      (step.dice.partition.perm _).length_eq]
  rw [hoffered, ← hcandidates, haccounts.intents, Intent.requests_append, Intent.requests_append,
    hissued, List.append_nil, List.length_append]
  omega

theorem runs_requests_le {before after : List Step} {step : Step} {agent : TestAgent}
    (h : Runs {} (before ++ step :: after) agent)
    : (Intent.requests step.intents).length
        ≤ 2 + maxSpots step.obs *
          (eligible (commanded before) step.obs (offered step.intents)).length := by
  rcases step_of_runs h with ⟨agent₁, agent₂, hbefore, hplays⟩
  rw [← taken_eq_commanded hbefore]
  apply update_requests_le hplays

theorem runs_requests_le_pylon
    : (Intent.requests buildingPylon.intents).length
        ≤ 2 + maxSpots colony *
          (eligible (commanded []) colony (offered buildingPylon.intents)).length := by
  apply @runs_requests_le [] [] buildingPylon afterPylon runs_buildingPylon

end TestAgent

end Sc2
