import Sc2pp.Lemmas.TakenActions

/-!
This module contains the order in which a step of the test agent looks for tasks. When the list is
partitioned all its actions are in the map of taken actions already, because the filter before has read
their counters. So the shuffle is free to order the whole list.
-/

namespace Sc2.TestAgent

open Agent Utils

def Handed (agent : TestAgent) (dice : Dice) (step : Step) (possibleActions : List PossibleAction)
    : Prop :=
  ∃ asked rest agent', step.intents = asked ++ rest ∧
    Plays [] (agent.prepare dice step.obs) asked (possibleActions, agent')

def FreshFirst (before : List Step) (step : Step) : Prop :=
  ∀ agent dice possibleActions, Runs {} before agent → Handed agent dice step possibleActions →
    possibleActions.Pairwise fun p q => commanded before q.action = 0 → commanded before p.action = 0

def candidates (before : List Step) (step : Step) : List PossibleAction :=
  eligible (commanded before) step.obs (offered step.intents)

def Unmixed (before : List Step) (step : Step) : Prop :=
  (∀ p ∈ candidates before step, commanded before p.action = 0) ∨
    ∀ p ∈ candidates before step, commanded before p.action ≠ 0

theorem handed_mem {before : List Step} {step : Step} {agent : TestAgent} {dice : Dice}
    {possibleActions : List PossibleAction} (hbefore : Runs {} before agent)
    (h : Handed agent dice step possibleActions) {p : PossibleAction} (hp : p ∈ possibleActions)
    : p ∈ candidates before step := by
  rcases h with ⟨asked, rest, agent', hintents, hplays⟩
  have hprepared := (prepare_ensures dice agent step.obs).plays _ _ _ hplays
  have hmem := hprepared.perm.mem_iff.mp hp
  rw [taken_eq_commanded hbefore] at hmem
  unfold candidates eligible
  rw [eligible, List.mem_filter] at hmem
  rw [List.mem_filter, hintents, offered_append]
  exact ⟨List.mem_append_left _ hmem.1, hmem.2⟩

theorem exists_handed {before after : List Step} {step : Step} {agent : TestAgent}
    (h : Runs {} (before ++ step :: after) agent) (shuffle : Reordering PossibleAction)
    : ∃ agent₁ dice, Runs {} before agent₁ ∧
        Handed agent₁ dice step (shuffle.apply (candidates before step)) := by
  rcases step_of_runs h with ⟨agent₁, agent₂, hbefore, hplays⟩
  rcases update_plays hplays
    with ⟨asked, placed, issued, prepared, tasks, hintents, hprepare, hfinds, hcommanded⟩
  let dice : Dice := { step.dice with partition := .keep, shuffle := shuffle }
  rcases prepare_of_plays hprepare dice with ⟨prepared', hprepare'⟩
  have hpossible := ((prepare_ensures dice agent₁ step.obs).plays _ _ _ hprepare').possibleActions
  refine ⟨agent₁, dice, hbefore, asked, placed ++ issued, prepared'.2, hintents, ?_⟩
  have hcandidates : candidates before step = eligible agent₁.taken step.obs (offered asked) := by
    rw [candidates, hintents, offered_of_update hfinds hcommanded, taken_eq_commanded hbefore]
  rw [hcandidates]
  have heq : prepared'.1 = shuffle.apply (eligible agent₁.taken step.obs (offered asked)) :=
    hpossible
  rw [← heq]
  exact hprepare'

theorem unmixed_of_freshFirst {before after : List Step} {step : Step} {agent : TestAgent}
    (h : Runs {} (before ++ step :: after) agent) (hfresh : FreshFirst before step)
    : Unmixed before step := by
  by_contra hmixed
  unfold Unmixed at hmixed
  push Not at hmixed
  rcases hmixed with ⟨⟨p, hp, htaken⟩, ⟨q, hq, hnew⟩⟩
  have hne : q ≠ p := by
    intro heq
    rw [heq] at hnew
    apply htaken hnew
  have hperm := (List.perm_cons_erase hp).symm
  rcases exists_handed h (.choose hperm) with ⟨agent₁, dice, hbefore, hhanded⟩
  rw [Reordering.choose_apply] at hhanded
  have hpairwise := hfresh agent₁ dice _ hbefore hhanded
  rw [List.pairwise_cons] at hpairwise
  apply htaken
  apply hpairwise.1 q _ hnew
  apply (List.mem_erase_of_ne hne).mpr hq

theorem freshFirst_of_unmixed {before : List Step} {step : Step} (h : Unmixed before step)
    : FreshFirst before step := by
  intro agent dice possibleActions hbefore hhanded
  apply List.pairwise_of_forall_mem_list
  intro p hp q hq hnew
  rcases h with hfresh | htaken
  . apply hfresh p (handed_mem hbefore hhanded hp)
  . exact absurd hnew (htaken q (handed_mem hbefore hhanded hq))

theorem freshFirst_iff {before after : List Step} {step : Step} {agent : TestAgent}
    (h : Runs {} (before ++ step :: after) agent)
    : FreshFirst before step ↔ Unmixed before step := by
  constructor
  . intro hfresh
    apply unmixed_of_freshFirst h hfresh
  . intro hunmixed
    apply freshFirst_of_unmixed hunmixed

def immortalFirst : Step :=
  training [⟨.trainImmortal, 1⟩]

def immortalAndObserver : Step :=
  training [⟨.trainImmortal, 1⟩, ⟨.trainObserver, 2⟩]

def afterImmortal : TestAgent :=
  (({} : TestAgent).read .trainImmortal).set .trainImmortal 1

def afterBoth : TestAgent :=
  ((afterImmortal.read .trainImmortal).read .trainObserver).set .trainImmortal 2
    |>.set .trainObserver 1

set_option maxRecDepth 4096 in
theorem runs_immortals : Runs {} [immortalFirst, immortalAndObserver] afterBoth := by
  have hfirst : Plays [] (update calmDice {} facilities) immortalFirst.intents afterImmortal := by
    apply Plays.answer
    . exact .ask _ _ _ (.done _)
    . exact .act (.done _ _)
  apply Runs.cons hfirst
  apply Runs.cons _ (.nil _)
  apply Plays.answer
  . exact .ask _ _ _ (.done _)
  . exact .act (.act (.done _ _))

theorem freshFirst_iff_immortals
    : FreshFirst [immortalFirst] immortalAndObserver
        ↔
      Unmixed [immortalFirst] immortalAndObserver := by
  apply @freshFirst_iff _ [] _ _ runs_immortals

theorem not_freshFirst_immortals
    : ¬ ∀ before step after agent, Runs {} (before ++ step :: after) agent →
        FreshFirst before step := by
  intro h
  have hunmixed := unmixed_of_freshFirst runs_immortals (h [immortalFirst] _ [] _ runs_immortals)
  revert hunmixed
  unfold Unmixed
  decide

end Sc2.TestAgent
