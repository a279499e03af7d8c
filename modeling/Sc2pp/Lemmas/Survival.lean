import Sc2pp.Lemmas.Completion
import Sc2pp.Lemmas.UpdateBatch

/-!
This module contains when an update of the test agent comes to its end. A program is `Safe` if it does
so with answers of the right kinds, whatever they say. A program that `FailsWith` a fault does so before
it has asked for anything.
-/

namespace Sc2

open Agent Utils

namespace Query.Call

def Fits : Query.Call → Query.Answer → Prop
  | .abilities _ _, .abilities _ => True
  | .abilitiesOfUnit _ _, .abilitiesOfUnit _ => True
  | .placement _ _ _, .placement _ => True
  | _, _ => False

theorem fits_of_runs {call : Query.Call} {log : Exchanges} {answer : Query.Answer}
    (h : Dialogue.Runs call.run log (.ok answer)) : call.Fits answer := by
  cases call with
  | abilities units ignore =>
    rcases Dialogue.runs_bind_ok h with ⟨found, _, _, -, hpure, -⟩
    cases (Dialogue.runs_pure_iff.mp hpure).2
    trivial
  | abilitiesOfUnit unit ignore =>
    rcases Dialogue.runs_bind_ok h with ⟨found, _, _, -, hpure, -⟩
    cases (Dialogue.runs_pure_iff.mp hpure).2
    trivial
  | placement building pos ignore =>
    rcases Dialogue.runs_bind_ok h with ⟨possible, _, _, -, hpure, -⟩
    cases (Dialogue.runs_pure_iff.mp hpure).2
    trivial

end Query.Call

namespace Agent.Program

variable {α β : Type}

def Safe : Program α → Prop
  | done _ => True
  | fail _ => False
  | act _ k => k.Safe
  | has k => ∀ b, (k b).Safe
  | query call k => ∀ answer, call.Fits answer → (k (.ok answer)).Safe

theorem Safe.completes {program : Program α} (h : program.Safe) : program.Completes := by
  induction program with
  | done a =>
    intro actions
    exact .pure trivial
  | fail fault => exact h.elim
  | act call k ih =>
    intro actions
    exact ih h (actions.call call)
  | has k ih =>
    intro actions
    exact ih actions.has (h actions.has) actions
  | query call k ih =>
    intro actions
    constructor
    intro log result hruns hlog
    have hanswered : ∀ log₁ log₂ : Exchanges, log = log₁ ++ log₂ →
        (∀ e ∈ log₁, QueriesAnswered e) ∧ ∀ e ∈ log₂, QueriesAnswered e := by
      intro log₁ log₂ hsplit
      rw [hsplit] at hlog
      exact List.forall_mem_append.mp hlog
    rcases run_query hruns with ⟨answer, log₁, log₂, hcall, hk, hsplit⟩ |
      ⟨what, log₁, log₂, hcall, hk, hsplit⟩ | ⟨fault, hcall, rfl⟩
    . exact (ih (.ok answer) (h answer (Query.Call.fits_of_runs hcall)) actions).runs log₂ result hk
        (hanswered log₁ log₂ hsplit).2
    . rcases Query.Call.runs_answered hcall (hanswered log₁ log₂ hsplit).1 with ⟨answer, hanswer⟩
      cases hanswer
    . rcases Query.Call.runs_answered hcall hlog with ⟨answer, hanswer⟩
      cases hanswer

theorem Safe.bind {program : Program α} {f : α → Program β} (h : program.Safe)
    (hf : ∀ a, (f a).Safe) : (program >>= f).Safe := by
  change (program.bind f).Safe
  induction program with
  | done a => exact hf a
  | fail fault => exact h.elim
  | act call k ih => exact ih h
  | has k ih =>
    intro b
    exact ih b (h b)
  | query call k ih =>
    intro answer hfits
    exact ih (.ok answer) (h answer hfits)

theorem Safe.pure (a : α) : (pure a : Program α).Safe := by
  trivial

theorem Safe.map {program : Program α} {f : α → β} (h : program.Safe) : (f <$> program).Safe := by
  rw [map_eq_pure_bind]
  apply h.bind
  intro a
  exact .pure (f a)

theorem Safe.lift {outcome : Outcome α} {a : α} (h : outcome = .ok a)
    : (liftM outcome : Program α).Safe := by
  subst h
  trivial

theorem Safe.lift_bind {outcome : Outcome α} {f : α → Program β} {a : α} (h : outcome = .ok a)
    (hf : (f a).Safe) : ((liftM outcome : Program α) >>= f).Safe := by
  subst h
  exact hf

theorem Safe.command (call : Actions.Call) : (command call).Safe := by
  trivial

theorem Safe.asking {call : Query.Call} {f : Query.Answer → Option α}
    (h : ∀ answer, call.Fits answer → (f answer).isSome) : (asking call f).Safe := by
  intro answer hfits
  simp only
  rcases Option.isSome_iff_exists.mp (h answer hfits) with ⟨a, ha⟩
  rw [ha]
  trivial

theorem Safe.forM {xs : List α} {f : α → Program PUnit} (h : ∀ x ∈ xs, (f x).Safe)
    : (xs.forM f).Safe := by
  induction xs with
  | nil => exact .pure _
  | cons x xs ih =>
    rw [List.forall_mem_cons] at h
    apply h.1.bind
    intro _
    exact ih h.2

theorem Safe.findM? {xs : List α} {f : α → Program Bool} (h : ∀ x, (f x).Safe)
    : (xs.findM? f).Safe := by
  induction xs with
  | nil => exact .pure _
  | cons x xs ih =>
    rw [List.findM?]
    apply (h x).bind
    intro possible
    cases possible with
    | true => exact .pure _
    | false => exact ih

theorem Safe.findSomeM? {xs : List α} {f : α → Program (Option β)} (h : ∀ x, (f x).Safe)
    : (xs.findSomeM? f).Safe := by
  induction xs with
  | nil => exact .pure _
  | cons x xs ih =>
    rw [List.findSomeM?]
    apply (h x).bind
    intro found
    cases found with
    | some b => exact .pure _
    | none => exact ih

def FailsWith (fault : Fault) : Program α → Prop
  | fail fault' => fault' = fault
  | act _ k => k.FailsWith fault
  | _ => False

theorem FailsWith.bind {fault : Fault} {program : Program α} (h : program.FailsWith fault)
    (f : α → Program β) : (program >>= f).FailsWith fault := by
  change (program.bind f).FailsWith fault
  induction program with
  | fail fault' => exact h
  | act call k ih => exact ih h
  | _ => exact h.elim

theorem FailsWith.run {fault : Fault} {program : Program α} (h : program.FailsWith fault)
    (actions : Actions) : program.run actions = .done (.error fault) := by
  induction program generalizing actions with
  | fail fault' =>
    cases h
    rfl
  | act call k ih => exact ih h (actions.call call)
  | _ => exact h.elim

end Agent.Program

namespace TestAgent

open Program

theorem placement_safe (building : AbilityId) (pos : Point2D)
    : (Program.placement building pos).Safe := by
  apply Safe.asking
  intro answer hfits
  cases answer with
  | placement possible => rfl
  | _ => exact hfits.elim

theorem findAnchorPoint_safe (obs : Observation) (building : AbilityId)
    : (findAnchorPoint obs building).Safe := by
  unfold findAnchorPoint
  simp only
  split
  . exact .pure _
  . split
    . exact .pure _
    . apply Safe.findSomeM?
      intro pylon
      rw [BuildPos.findBuildposNear_eq_findM?]
      apply Safe.map
      apply Safe.findM?
      intro tile
      apply placement_safe

variable {obs : Observation} (hnexus : obs.unitsSelf.filter (type .protossNexus) ≠ [])

theorem closest_exists (pos : Point2D) {objects : Units} (h : objects ≠ [])
    : ∃ u, closest pos objects = .ok u := by
  cases objects with
  | nil => exact absurd rfl h
  | cons u objects => exact ⟨_, rfl⟩

include hnexus in
theorem nexus_exists
    : ∃ nexus, Outcome.elementAt (obs.unitsSelf.filter (type .protossNexus)) 0 = .ok nexus := by
  cases hnexuses : obs.unitsSelf.filter (type .protossNexus) with
  | nil => exact absurd hnexuses hnexus
  | cons nexus nexuses => exact ⟨nexus, rfl⟩

include hnexus in
theorem buildPylon_safe (offsets : Nat → Point2D) (builder : Tag) (force : Bool)
    : (buildPylon obs offsets builder force).Safe := by
  rcases nexus_exists hnexus with ⟨nexus, hfirst⟩
  unfold buildPylon
  simp only
  split
  . exact .pure _
  . apply Safe.lift_bind hfirst
    apply Safe.findSomeM?
    intro i
    apply (placement_safe _ _).bind
    intro possible
    cases possible <;> exact .pure _

include hnexus in
theorem buildAssimilator_exists (builder : Tag)
    : ∃ task, buildAssimilator obs builder = .ok task := by
  rcases nexus_exists hnexus with ⟨nexus, hfirst⟩
  unfold buildAssimilator
  simp only
  split
  . exact ⟨_, rfl⟩
  . split
    . exact ⟨_, rfl⟩
    . next hgeysers =>
      rw [List.isEmpty_iff] at hgeysers
      rcases closest_exists (.ofPoint3D nexus.pos) hgeysers with ⟨geyser, hgeyser⟩
      rw [hfirst]
      simp only [Outcome.bind_ok, hgeyser]
      exact ⟨_, rfl⟩

include hnexus in
theorem findPossibleTask_safe (offsets : Nat → Point2D) (x : PossibleAction)
    : (findPossibleTask obs offsets x).Safe := by
  unfold findPossibleTask
  split
  . exact .pure _
  . split
    . split
      . rcases buildAssimilator_exists hnexus x.executor with ⟨task, htask⟩
        exact .lift htask
      . split
        . apply buildPylon_safe hnexus
        . apply (findAnchorPoint_safe obs x.action).bind
          intro pos
          cases pos with
          | some p => exact .pure _
          | none => apply buildPylon_safe hnexus
    . exact .pure _

include hnexus in
theorem findPossibleTasks_safe (offsets : Nat → Nat → Point2D) (possibleActions : List PossibleAction)
    : (findPossibleTasks obs offsets possibleActions).Safe := by
  induction possibleActions with
  | nil => exact .pure _
  | cons x possibleActions ih =>
    rw [findPossibleTasks]
    apply (findPossibleTask_safe hnexus _ x).bind
    intro task
    apply ih.bind
    intro tasks
    exact .pure _

theorem commandTasks_safe (agent : TestAgent) (tasks : List Task)
    : (agent.commandTasks tasks).Safe := by
  induction tasks generalizing agent with
  | nil => exact .pure _
  | cons task tasks ih =>
    rw [commandTasks]
    apply (Safe.command _).bind
    intro _
    apply ih

theorem announceCreated_safe (obs : Observation) : (announceCreated obs).Safe := by
  unfold announceCreated
  split
  . exact .pure _
  . exact .command _

theorem manageIdle_safe (h : idleProbes obs = [] ∨ nearMinerals obs ≠ [])
    : (manageIdle obs).Safe := by
  unfold manageIdle
  apply Safe.forM
  intro probe hprobe
  rcases h with h | h
  . change probe ∈ idleProbes obs at hprobe
    rw [h] at hprobe
    cases hprobe
  . rcases closest_exists (.ofPoint3D probe.pos) h with ⟨mineral, hmineral⟩
    apply Safe.lift_bind hmineral
    exact .command _

theorem findPossibleActions_safe (obs : Observation) : (findPossibleActions obs).Safe := by
  have habilities : ∀ units, (Program.abilities units).Safe := by
    intro units
    apply Safe.asking
    intro answer hfits
    cases answer with
    | abilities found => rfl
    | _ => exact hfits.elim
  have habilitiesOfUnit : ∀ unit, (Program.abilitiesOfUnit unit).Safe := by
    intro unit
    apply Safe.asking
    intro answer hfits
    cases answer with
    | abilitiesOfUnit found => rfl
    | _ => exact hfits.elim
  unfold findPossibleActions
  simp only
  apply (habilities _).bind
  intro found
  split
  . exact .pure _
  . apply (habilitiesOfUnit _).bind
    intro found'
    exact .pure _

theorem prepare_safe (dice : Dice) (agent : TestAgent)
    (h : idleProbes obs = [] ∨ nearMinerals obs ≠ []) : (prepare dice agent obs).Safe := by
  unfold prepare gather
  apply Safe.bind
  . apply (announceCreated_safe obs).bind
    intro _
    apply (manageIdle_safe h).bind
    intro _
    apply Safe.bind
    . unfold assignToAssimilators
      apply Safe.forM
      intro e _
      exact .command _
    . intro _
      apply findPossibleActions_safe
  . intro found
    exact .pure _

include hnexus in
theorem update_safe (dice : Dice) (agent : TestAgent)
    (h : idleProbes obs = [] ∨ nearMinerals obs ≠ []) : (update dice agent obs).Safe := by
  unfold update
  apply (prepare_safe dice agent h).bind
  intro prepared
  rcases prepared with ⟨possibleActions, agent'⟩
  apply (findPossibleTasks_safe hnexus dice.offsets possibleActions).bind
  intro tasks
  apply commandTasks_safe

theorem manageIdle_failsWith (hidle : idleProbes obs ≠ []) (hminerals : nearMinerals obs = [])
    : (manageIdle obs).FailsWith .assertFailed := by
  rw [manageIdle_eq, hminerals]
  cases hprobes : idleProbes obs with
  | nil => exact absurd hprobes hidle
  | cons probe probes =>
    apply FailsWith.bind
    rfl

theorem update_failsWith (dice : Dice) (agent : TestAgent) (hidle : idleProbes obs ≠ [])
    (hminerals : nearMinerals obs = []) : (update dice agent obs).FailsWith .assertFailed := by
  have hgather : (gather obs).FailsWith .assertFailed := by
    have hrest := (manageIdle_failsWith hidle hminerals).bind fun _ => do
      assignToAssimilators obs
      findPossibleActions obs
    unfold gather announceCreated
    split
    . exact hrest
    . exact hrest
  unfold update prepare
  exact (hgather.bind _).bind _

include hnexus in
theorem update_completes_iff (dice : Dice) (agent : TestAgent)
    : ((update dice agent obs).Completes ↔ idleProbes obs = [] ∨ nearMinerals obs ≠ []) ∧
      (idleProbes obs ≠ [] → nearMinerals obs = [] →
        (update dice agent obs).FailsWith .assertFailed) := by
  have hfails : idleProbes obs ≠ [] → nearMinerals obs = [] →
      (update dice agent obs).FailsWith .assertFailed :=
    fun hidle hminerals => update_failsWith dice agent hidle hminerals
  refine ⟨⟨?_, ?_⟩, hfails⟩
  . intro h
    by_contra hnone
    rw [not_or, not_not] at hnone
    have hrun := (hfails hnone.1 hnone.2).run {}
    have hcompletes := h {}
    rw [hrun] at hcompletes
    rcases hcompletes.runs [] _ (.done _) (by simp) with ⟨ended, hended, -⟩
    cases hended
  . intro h
    apply (update_safe hnexus dice agent h).completes

def stranded : Observation :=
  { Observation.new default [] [] with self := [unbuiltNexus, idleProbe] }

theorem update_completes_stranded
    : ¬ (update calmDice {} stranded).Completes ∧
        (update calmDice {} stranded).FailsWith .assertFailed := by
  have hspec := @update_completes_iff stranded (by decide) calmDice {}
  have hidle : idleProbes stranded ≠ [] := by decide
  have hminerals : nearMinerals stranded = [] := by rfl
  refine ⟨?_, hspec.2 hidle hminerals⟩
  intro h
  rcases hspec.1.mp h with hnone | hsome
  . exact hidle hnone
  . exact hsome hminerals

end TestAgent

end Sc2
