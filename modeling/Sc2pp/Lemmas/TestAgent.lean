import Sc2pp.Impl.TestAgent
import Sc2pp.Lemmas.Program

/-!
This module contains what each part of an update of the test agent asks and commands. The answers make
the two lists everything is counted by: what the units offered and for what a placement was granted.
A task that is not direct is there because its placement was granted.
-/

namespace Sc2.TestAgent

open Agent Utils

def offers : Query.Call × Query.Answer → List PossibleAction
  | (.abilities _ _, .abilities found) => found.flatMap toPossibleActions
  | (.abilitiesOfUnit unit _, .abilitiesOfUnit found) => possibleBuildActions unit found
  | _ => []

def offered (intents : List Intent) : List PossibleAction :=
  (Intent.answered intents).flatMap offers

def grant? : Query.Call × Query.Answer → Option AbilityId
  | (.placement building _ _, .placement true) => some building
  | _ => none

def granted (intents : List Intent) : List AbilityId :=
  (Intent.answered intents).filterMap grant?

@[simp]
theorem offered_append (intents intents' : List Intent)
    : offered (intents ++ intents') = offered intents ++ offered intents' := by
  unfold offered
  rw [Intent.answered_append, List.flatMap_append]

@[simp]
theorem granted_append (intents intents' : List Intent)
    : granted (intents ++ intents') = granted intents ++ granted intents' := by
  unfold granted
  rw [Intent.answered_append, List.filterMap_append]

structure Searched (building : AbilityId) (found : Bool) (intents : List Intent) : Prop where
  noTasks : Intent.tasks intents = []
  noOffers : offered intents = []
  granted : granted intents = if found then [building] else []

theorem Searched.nil {building : AbilityId} : Searched building false [] where
  noTasks := rfl
  noOffers := rfl
  granted := rfl

theorem Searched.append {building : AbilityId} {found : Bool} {intents intents' : List Intent}
    (h : Searched building false intents) (h' : Searched building found intents')
    : Searched building found (intents ++ intents') where
  noTasks := by rw [Intent.tasks_append, h.noTasks, h'.noTasks, List.append_nil]
  noOffers := by rw [offered_append, h.noOffers, h'.noOffers, List.append_nil]
  granted := by
    rw [granted_append, h.granted, h'.granted]
    rfl

theorem Searched.missed {building building' : AbilityId} {intents : List Intent}
    (h : Searched building false intents) : Searched building' false intents where
  noTasks := h.noTasks
  noOffers := h.noOffers
  granted := h.granted

theorem placement_ensures (building : AbilityId) (pos : Point2D)
    : (Program.placement building pos).Ensures fun intents possible =>
        Searched building possible intents := by
  apply Program.Ensures.asking
  intro log answer possible hruns hanswer
  cases answer with
  | placement possible' =>
    cases hanswer
    constructor
    . rfl
    . unfold offered
      rw [Intent.answered_query hruns]
      rfl
    . unfold granted
      rw [Intent.answered_query hruns]
      cases possible <;> rfl
  | _ => cases hanswer

theorem buildPos_ensures (center : Point2D) (radius : Rat) (building : AbilityId)
    : ((BuildPos.inquiry center radius).run (BuildPos.ask Program.placement building)
        (BuildPos.start center)).Ensures fun intents result =>
          Searched building result.isLeft intents := by
  apply Program.Ensures.inquiry
  . intro f
    exact .nil
  . intro intents intents' f result h h'
    apply h.append h'
  . intro f hcond
    cases hqueue : f.queue with
    | nil => simp [BuildPos.inquiry, hqueue] at hcond
    | cons pixel fringe =>
      simp only [BuildPos.ask, BuildPos.inquiry, BuildPos.next, hqueue]
      apply (placement_ensures building pixel.toPoint2D).imp
      intro intents possible h
      cases possible <;> exact h

theorem findBuildposNear_ensures (center : Point2D) (radius : Rat) (building : AbilityId)
    : (findBuildposNear Program.placement center radius building).Ensures fun intents pos =>
        Searched building pos.isSome intents := by
  apply (buildPos_ensures center radius building).bind
  intro intents result h
  cases result <;> exact .pure (by simpa using h)

theorem findAnchorPoint_ensures (obs : Observation) (building : AbilityId)
    : (findAnchorPoint obs building).Ensures fun intents pos =>
        Searched building pos.isSome intents := by
  unfold findAnchorPoint
  simp only
  split
  . exact .pure .nil
  . split
    . exact .pure .nil
    . apply Program.Ensures.findSomeM? .nil
      . intro intents intents' found h h'
        apply h.append h'
      . intro center hcenter
        apply findBuildposNear_ensures

theorem buildPylon_ensures (obs : Observation) (offsets : Nat → Point2D) (builder : Tag)
    (force : Bool)
    : (buildPylon obs offsets builder force).Ensures fun intents task =>
        Searched .buildPylon task.isSome intents ∧ ∀ t ∈ task, t.action = .buildPylon := by
  unfold buildPylon
  simp only
  split
  . exact .pure ⟨.nil, by simp⟩
  . apply Program.Ensures.lift_bind
    intro nexus hnexus
    apply Program.Ensures.findSomeM? ⟨.nil, by simp⟩
    . intro intents intents' found h h'
      exact ⟨h.1.append h'.1, h'.2⟩
    . intro i hi
      apply (placement_ensures _ _).bind
      intro intents possible h
      cases possible <;> exact .pure (by simpa using h)

def wantsAssimilator (obs : Observation) : Bool :=
  let nexuses := obs.unitsSelf.filter (type .protossNexus)
  let assimilators := obs.unitsSelf.filter (type .protossAssimilator)
  decide (assimilators.length < nexuses.length * 2) && !(freeGeysers obs).isEmpty

theorem buildAssimilator_eq_ok {obs : Observation} {builder : Tag} {task : Option Task}
    (h : buildAssimilator obs builder = .ok task)
    : task.isSome = wantsAssimilator obs ∧ ∀ t ∈ task, t.action = .buildAssimilator := by
  unfold buildAssimilator at h
  unfold wantsAssimilator
  simp only at h ⊢
  split at h
  . next hle =>
    cases h
    simp [hle]
  . next hlt =>
    split at h
    . next hgeysers =>
      cases h
      simp [hgeysers]
    . next hgeysers =>
      simp only [Outcome.bind_eq_ok, Outcome.pure_eq_ok, Except.ok.injEq] at h
      rcases h with ⟨nexus, -, geyser, -, rfl⟩
      simp [Nat.lt_of_not_le hlt, hgeysers]

def direct (obs : Observation) (action : AbilityId) : Bool :=
  isTrainingAbility action || (action == .buildAssimilator && wantsAssimilator obs)

-- Whether a task with the action `a` was found for each candidate that is direct or granted.
structure Finds (obs : Observation) (possibleActions : List PossibleAction) (tasks : List Task)
    (intents : List Intent) : Prop where
  noTasks : Intent.tasks intents = []
  noOffers : offered intents = []
  count : ∀ a, tasks.countP (·.action == a)
    = (if direct obs a then possibleActions.countP (·.action == a) else 0) + (granted intents).count a

variable {obs : Observation}

theorem Finds.nil : Finds obs [] [] [] where
  noTasks := rfl
  noOffers := rfl
  count a := by simp [granted, Intent.answered]

theorem Finds.append {possibleActions possibleActions' : List PossibleAction}
    {tasks tasks' : List Task} {intents intents' : List Intent}
    (h : Finds obs possibleActions tasks intents) (h' : Finds obs possibleActions' tasks' intents')
    : Finds obs (possibleActions ++ possibleActions') (tasks ++ tasks') (intents ++ intents') where
  noTasks := by rw [Intent.tasks_append, h.noTasks, h'.noTasks, List.append_nil]
  noOffers := by rw [offered_append, h.noOffers, h'.noOffers, List.append_nil]
  count a := by
    rw [List.countP_append, List.countP_append, granted_append, List.count_append, h.count, h'.count]
    split <;> omega

theorem Finds.of_direct {x : PossibleAction} {task : Task} (hdirect : direct obs x.action = true)
    (htask : task.action = x.action) : Finds obs [x] [task] [] where
  noTasks := rfl
  noOffers := rfl
  count a := by
    simp only [List.countP_singleton, htask, granted, Intent.answered, List.filterMap_nil,
      List.count_nil, Nat.add_zero]
    by_cases ha : x.action = a
    . subst ha
      simp [hdirect]
    . simp [ha]

theorem Finds.of_searched {x : PossibleAction} {task : Option Task} {building : AbilityId}
    {intents : List Intent} (hdirect : direct obs x.action = false)
    (hsearched : Searched building task.isSome intents) (htask : ∀ t ∈ task, t.action = building)
    : Finds obs [x] task.toList intents where
  noTasks := hsearched.noTasks
  noOffers := hsearched.noOffers
  count a := by
    have hx : (if direct obs a then [x].countP (·.action == a) else 0) = 0 := by
      by_cases ha : x.action = a
      . subst ha
        simp [hdirect]
      . simp [ha]
    rw [hx, hsearched.granted]
    cases task with
    | none => simp
    | some t =>
      rw [← htask t rfl]
      simp [List.count_singleton]

theorem findPossibleTask_ensures (obs : Observation) (offsets : Nat → Point2D) (x : PossibleAction)
    : (findPossibleTask obs offsets x).Ensures fun intents task =>
        Finds obs [x] task.toList intents := by
  unfold findPossibleTask
  split
  . next htraining =>
    apply Program.Ensures.pure
    apply Finds.of_direct _ rfl
    simp [direct, htraining]
  . next htraining =>
    split
    . next hbuilding =>
      split
      . next hassimilator =>
        apply Program.Ensures.lift
        intro task htask
        rcases buildAssimilator_eq_ok htask with ⟨hsome, haction⟩
        cases task with
        | none =>
          apply Finds.of_searched _ .nil haction
          rw [hassimilator] at htraining ⊢
          simpa [direct, htraining] using hsome
        | some t =>
          apply Finds.of_direct
          . simp [direct, hassimilator, ← hsome]
          . rw [haction t rfl, hassimilator]
      . next hassimilator =>
        have hdirect : direct obs x.action = false := by simp [direct, htraining, hassimilator]
        split
        . apply (buildPylon_ensures obs offsets x.executor false).imp
          intro intents task h
          apply Finds.of_searched hdirect h.1 h.2
        . apply (findAnchorPoint_ensures obs x.action).bind
          intro intents pos hpos
          cases pos with
          | some p =>
            apply Program.Ensures.pure
            rw [List.append_nil]
            apply Finds.of_searched hdirect hpos
            simp
          | none =>
            apply (buildPylon_ensures obs offsets x.executor true).imp
            intro intents' task h
            apply Finds.of_searched hdirect (hpos.missed.append h.1) h.2
    . next hbuilding =>
      apply Program.Ensures.pure
      apply Finds.of_searched _ (Searched.nil : Searched .invalid false []) (by simp)
      have hne : x.action ≠ .buildAssimilator := by
        intro hassimilator
        apply hbuilding
        rw [hassimilator]
        rfl
      simp [direct, htraining, hne]

theorem findPossibleTasks_ensures (obs : Observation) (offsets : Nat → Nat → Point2D)
    (possibleActions : List PossibleAction)
    : (findPossibleTasks obs offsets possibleActions).Ensures fun intents tasks =>
        Finds obs possibleActions tasks intents := by
  induction possibleActions with
  | nil => exact .pure .nil
  | cons x possibleActions ih =>
    rw [findPossibleTasks]
    apply (findPossibleTask_ensures obs _ x).bind
    intro intents task htask
    apply ih.bind
    intro intents' tasks htasks
    apply Program.Ensures.pure
    rw [List.append_nil]
    apply htask.append htasks

structure Quiet (intents : List Intent) : Prop where
  noTasks : Intent.tasks intents = []
  nothingAnswered : Intent.answered intents = []

theorem Quiet.nil : Quiet [] where
  noTasks := rfl
  nothingAnswered := rfl

theorem Quiet.append {intents intents' : List Intent} (h : Quiet intents) (h' : Quiet intents')
    : Quiet (intents ++ intents') where
  noTasks := by rw [Intent.tasks_append, h.noTasks, h'.noTasks, List.append_nil]
  nothingAnswered := by
    rw [Intent.answered_append, h.nothingAnswered, h'.nothingAnswered, List.append_nil]

theorem announceCreated_ensures (obs : Observation)
    : (announceCreated obs).Ensures fun intents _ => Quiet intents := by
  unfold announceCreated
  split
  . exact .pure .nil
  . exact .command ⟨rfl, rfl⟩

theorem manageIdle_ensures (obs : Observation)
    : (manageIdle obs).Ensures fun intents _ => Quiet intents := by
  unfold manageIdle
  apply Program.Ensures.forM .nil
  . intro intents intents' h h'
    apply h.append h'
  . intro u
    apply Program.Ensures.lift_bind
    intro mineral _
    exact .command ⟨rfl, rfl⟩

theorem assignToAssimilators_ensures (obs : Observation)
    : (assignToAssimilators obs).Ensures fun intents _ => Quiet intents := by
  unfold assignToAssimilators
  apply Program.Ensures.forM .nil
  . intro intents intents' h h'
    apply h.append h'
  . intro e
    exact .command ⟨rfl, rfl⟩

structure Offered (intents : List Intent) (possibleActions : List PossibleAction) : Prop where
  noTasks : Intent.tasks intents = []
  noGrants : granted intents = []
  offered : offered intents = possibleActions

theorem Offered.of_answer {call : Query.Call} {log : Exchanges} {answer : Query.Answer}
    (hruns : Dialogue.Runs call.run log (.ok answer)) (hgrant : grant? (call, answer) = none)
    : Offered [.query call log] (offers (call, answer)) where
  noTasks := rfl
  noGrants := by
    unfold granted
    rw [Intent.answered_query hruns, List.filterMap_cons_none hgrant, List.filterMap_nil]
  offered := by
    unfold TestAgent.offered
    rw [Intent.answered_query hruns, List.flatMap_singleton]

theorem abilities_ensures (units : Units)
    : (Program.abilities units).Ensures fun intents found =>
        Offered intents (found.flatMap toPossibleActions) := by
  apply Program.Ensures.asking
  intro log answer found hruns hanswer
  cases answer with
  | abilities found' =>
    cases hanswer
    exact .of_answer hruns rfl
  | _ => cases hanswer

theorem abilitiesOfUnit_ensures (unit : Unit)
    : (Program.abilitiesOfUnit unit).Ensures fun intents found =>
        Offered intents (possibleBuildActions unit found) := by
  apply Program.Ensures.asking
  intro log answer found hruns hanswer
  cases answer with
  | abilitiesOfUnit found' =>
    cases hanswer
    exact .of_answer hruns rfl
  | _ => cases hanswer

theorem Offered.append {intents intents' : List Intent}
    {possibleActions possibleActions' : List PossibleAction} (h : Offered intents possibleActions)
    (h' : Offered intents' possibleActions')
    : Offered (intents ++ intents') (possibleActions ++ possibleActions') where
  noTasks := by rw [Intent.tasks_append, h.noTasks, h'.noTasks, List.append_nil]
  noGrants := by rw [granted_append, h.noGrants, h'.noGrants, List.append_nil]
  offered := by rw [offered_append, h.offered, h'.offered]

theorem Offered.of_quiet {intents : List Intent} (h : Quiet intents) : Offered intents [] where
  noTasks := h.noTasks
  noGrants := by
    unfold granted
    rw [h.nothingAnswered]
    rfl
  offered := by
    unfold TestAgent.offered
    rw [h.nothingAnswered]
    rfl

theorem findPossibleActions_ensures (obs : Observation)
    : (findPossibleActions obs).Ensures Offered := by
  unfold findPossibleActions
  simp only
  apply (abilities_ensures _).bind
  intro intents found h
  split
  . apply Program.Ensures.pure
    rw [List.append_nil]
    exact h
  . next builder _ _ =>
    apply (abilitiesOfUnit_ensures builder).bind
    intro intents' found' h'
    apply Program.Ensures.pure
    rw [List.append_nil]
    apply h.append h'

theorem gather_ensures (obs : Observation) : (gather obs).Ensures Offered := by
  unfold gather
  apply (announceCreated_ensures obs).bind
  intro intents₁ _ h₁
  apply (manageIdle_ensures obs).bind
  intro intents₂ _ h₂
  apply (assignToAssimilators_ensures obs).bind
  intro intents₃ _ h₃
  apply (findPossibleActions_ensures obs).imp
  intro intents₄ found h₄
  have hquiet := h₁.append (h₂.append h₃)
  simpa using (Offered.of_quiet hquiet).append h₄

@[simp]
theorem taken_set (agent : TestAgent) (action a : AbilityId) (n : Nat)
    : (agent.set action n).taken a = if a = action then n else agent.taken a := by
  unfold taken set
  by_cases h : a = action
  . simp [h]
  . simp [h]

@[simp]
theorem taken_read (agent : TestAgent) (action a : AbilityId)
    : (agent.read action).taken a = agent.taken a := by
  unfold read
  rw [taken_set]
  split
  . next h => rw [h]
  . rfl

theorem isNew_read (agent : TestAgent) (action : AbilityId) (p : PossibleAction)
    : (agent.read action).isNew p = (agent.isNew p && p.action != action) := by
  unfold read set isNew
  by_cases h : p.action = action
  . simp [h]
  . simp [h]

theorem eraseTaken_fst (agent : TestAgent) (possibleActions : List PossibleAction)
    : (agent.eraseTaken possibleActions).1
        =
      possibleActions.filter fun p => agent.taken p.action < maxTaken p.action := by
  induction possibleActions generalizing agent with
  | nil => rfl
  | cons p possibleActions ih =>
    rw [eraseTaken, List.filter_cons, ih]
    simp only [taken_read]
    split
    . next h => simp [Nat.not_lt.mpr h]
    . next h => simp [Nat.lt_of_not_le h]

theorem eraseTaken_taken (agent : TestAgent) (possibleActions : List PossibleAction) (a : AbilityId)
    : (agent.eraseTaken possibleActions).2.taken a = agent.taken a := by
  induction possibleActions generalizing agent with
  | nil => rfl
  | cons p possibleActions ih =>
    simp only [eraseTaken]
    rw [ih, taken_read]

theorem eraseTaken_isNew (agent : TestAgent) (possibleActions : List PossibleAction)
    (p : PossibleAction)
    : (agent.eraseTaken possibleActions).2.isNew p
        =
      (agent.isNew p && !possibleActions.any fun p' => p'.action == p.action) := by
  induction possibleActions generalizing agent with
  | nil => simp [eraseTaken]
  | cons p' possibleActions ih =>
    simp only [eraseTaken]
    rw [ih, isNew_read, List.any_cons, Bool.not_or, Bool.and_assoc, bne_comm]
    rfl

theorem arrange_of_known {dice : Dice} {agent : TestAgent} {possibleActions : List PossibleAction}
    (h : ∀ p ∈ possibleActions, agent.isNew p = false)
    : agent.arrange dice possibleActions
        =
      dice.shuffle.apply (dice.partition.apply possibleActions) := by
  unfold arrange
  have hnew : possibleActions.filter agent.isNew = [] := by simpa using h
  have hknown : (possibleActions.filter fun p => !agent.isNew p) = possibleActions := by
    simpa using h
  rw [hnew, hknown, Reordering.apply_nil, List.nil_append]

def eligible (taken : AbilityId → Nat) (obs : Observation) (found : List PossibleAction)
    : List PossibleAction :=
  found.filter fun p =>
    taken p.action < maxTaken p.action && !(p.action == .trainProbe && stopProbes obs)

theorem eraseTaken_eraseProbes (agent : TestAgent) (obs : Observation) (found : List PossibleAction)
    : (agent.eraseTaken (eraseProbes obs found)).1 = eligible agent.taken obs found := by
  rw [eraseTaken_fst]
  unfold eraseProbes eligible
  rw [List.filter_filter]

theorem eligible_known {agent : TestAgent} {found : List PossibleAction} {p : PossibleAction}
    (h : p ∈ eligible agent.taken obs found)
    : (agent.eraseTaken (eraseProbes obs found)).2.isNew p = false := by
  rw [← eraseTaken_eraseProbes, eraseTaken_fst, List.mem_filter] at h
  rw [eraseTaken_isNew, Bool.and_eq_false_iff, Bool.not_eq_false', List.any_eq_true]
  exact .inr ⟨p, h.1, by simp⟩

structure Prepared (dice : Dice) (agent : TestAgent) (obs : Observation) (intents : List Intent)
    (prepared : List PossibleAction × TestAgent) : Prop where
  noTasks : Intent.tasks intents = []
  noGrants : granted intents = []
  possibleActions : prepared.1
    = dice.shuffle.apply (dice.partition.apply (eligible agent.taken obs (offered intents)))
  taken : ∀ a, prepared.2.taken a = agent.taken a

theorem prepare_ensures (dice : Dice) (agent : TestAgent) (obs : Observation)
    : (prepare dice agent obs).Ensures (Prepared dice agent obs) := by
  unfold prepare
  apply (gather_ensures obs).bind
  intro intents found h
  apply Program.Ensures.pure
  rw [List.append_nil]
  constructor
  . exact h.noTasks
  . exact h.noGrants
  . simp only
    rw [h.offered, eraseTaken_eraseProbes]
    apply arrange_of_known
    intro p hp
    apply eligible_known hp
  . intro a
    apply eraseTaken_taken

structure Commanded (agent : TestAgent) (tasks : List Task) (intents : List Intent)
    (agent' : TestAgent) : Prop where
  commanded : Intent.tasks intents = tasks
  nothingAnswered : Intent.answered intents = []
  taken : ∀ a, agent'.taken a = agent.taken a + tasks.countP (·.action == a)

theorem commandTasks_ensures (agent : TestAgent) (tasks : List Task)
    : (agent.commandTasks tasks).Ensures (Commanded agent tasks) := by
  induction tasks generalizing agent with
  | nil => exact .pure ⟨rfl, rfl, fun _ => rfl⟩
  | cons task tasks ih =>
    rw [commandTasks]
    apply Program.Ensures.command_bind
    apply (ih _).imp
    intro intents agent' h
    constructor
    . rw [← h.commanded]
      rfl
    . rw [← h.nothingAnswered]
      rfl
    . intro a
      rw [h.taken, taken_set, List.countP_cons]
      by_cases ha : a = task.action
      . simp only [ha, if_true, beq_self_eq_true]
        omega
      . simp [ha, Ne.symm ha]

def demand (taken : AbilityId → Nat) (obs : Observation) (intents : List Intent) (a : AbilityId)
    : Nat :=
  (if direct obs a then (eligible taken obs (offered intents)).countP (·.action == a) else 0)
    + (granted intents).count a

structure Updated (agent : TestAgent) (obs : Observation) (intents : List Intent)
    (agent' : TestAgent) : Prop where
  taken : ∀ a, agent'.taken a = agent.taken a + (Intent.tasks intents).countP (·.action == a)
  count : ∀ a, (Intent.tasks intents).countP (·.action == a) = demand agent.taken obs intents a

theorem Prepared.perm {dice : Dice} {agent : TestAgent} {intents : List Intent}
    {prepared : List PossibleAction × TestAgent} (h : Prepared dice agent obs intents prepared)
    : prepared.1.Perm (eligible agent.taken obs (offered intents)) := by
  rw [h.possibleActions]
  apply (dice.shuffle.perm _).trans (dice.partition.perm _)

theorem update_plays {dice : Dice} {agent agent' : TestAgent} {intents : List Intent}
    (h : Plays [] (update dice agent obs) intents agent')
    : ∃ asked placed issued prepared tasks, intents = asked ++ (placed ++ issued) ∧
        Plays [] (prepare dice agent obs) asked prepared ∧ Finds obs prepared.1 tasks placed ∧
        Commanded prepared.2 tasks issued agent' := by
  unfold update at h
  rcases plays_bind_iff.mp h with ⟨prepared, asked, _, hprepare, hrest, rfl⟩
  rcases plays_bind_iff.mp hrest with ⟨tasks, placed, issued, hfind, hcommand, rfl⟩
  refine ⟨asked, placed, issued, prepared, tasks, rfl, hprepare, ?_, ?_⟩
  . apply (findPossibleTasks_ensures obs dice.offsets prepared.1).plays _ _ _ hfind
  . apply (commandTasks_ensures prepared.2 tasks).plays _ _ _ hcommand

theorem offered_of_update {agent agent' : TestAgent} {possibleActions : List PossibleAction}
    {tasks : List Task} {asked placed issued : List Intent}
    (hfinds : Finds obs possibleActions tasks placed)
    (hcommanded : Commanded agent tasks issued agent')
    : offered (asked ++ (placed ++ issued)) = offered asked := by
  have hnone : offered issued = [] := by
    rw [offered, hcommanded.nothingAnswered, List.flatMap_nil]
  rw [offered_append, offered_append, hfinds.noOffers, hnone, List.append_nil, List.append_nil]

theorem updated_of_plays {dice : Dice} {agent agent' : TestAgent} {intents : List Intent}
    (h : Plays [] (update dice agent obs) intents agent') : Updated agent obs intents agent' := by
  rcases update_plays h with ⟨asked, placed, issued, prepared, tasks, rfl, hplays, hfinds, hcommanded⟩
  have hprepared := (prepare_ensures dice agent obs).plays _ _ _ hplays
  have htasks : Intent.tasks (asked ++ (placed ++ issued)) = tasks := by
    rw [Intent.tasks_append, Intent.tasks_append, hprepared.noTasks, hfinds.noTasks,
      hcommanded.commanded]
    rfl
  have hgranted : granted (asked ++ (placed ++ issued)) = granted placed := by
    have hnone : granted issued = [] := by
      rw [granted, hcommanded.nothingAnswered, List.filterMap_nil]
    rw [granted_append, granted_append, hprepared.noGrants, hnone, List.append_nil, List.nil_append]
  constructor
  . intro a
    rw [htasks, hcommanded.taken, hprepared.taken]
  . intro a
    rw [htasks, hfinds.count, demand, offered_of_update hfinds hcommanded, hgranted,
      hprepared.perm.countP_eq]

theorem prepare_of_plays {dice : Dice} {agent : TestAgent} {asked : List Intent}
    {prepared : List PossibleAction × TestAgent}
    (h : Plays [] (prepare dice agent obs) asked prepared) (dice' : Dice)
    : ∃ prepared', Plays [] (prepare dice' agent obs) asked prepared' := by
  unfold prepare at h ⊢
  rcases plays_bind_iff.mp h with ⟨found, asked, _, hgather, hpure, rfl⟩
  cases hpure
  exact ⟨_, plays_bind_iff.mpr ⟨found, asked, [], hgather, .done _ _, rfl⟩⟩

end Sc2.TestAgent
