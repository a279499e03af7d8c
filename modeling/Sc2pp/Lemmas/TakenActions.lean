import Sc2pp.Lemmas.TestAgent

/-!
This module contains runs of the test agent: one update after the other, with any observations, any
dice and any answers. Its counters are how often it has commanded each action so far.

An action is commanded as often as the `demand` of the step says, which may be more than what is left
of its maximum.
-/

namespace Sc2.TestAgent

open Agent Utils

structure Step where
  obs : Observation
  dice : Dice
  intents : List Intent

inductive Runs : TestAgent → List Step → TestAgent → Prop where
  | nil (agent : TestAgent) : Runs agent [] agent
  | cons {agent agent' agent'' : TestAgent} {step : Step} {steps : List Step}
    : Plays [] (agent.update step.dice step.obs) step.intents agent' → Runs agent' steps agent'' →
      Runs agent (step :: steps) agent''

def commanded (steps : List Step) (a : AbilityId) : Nat :=
  (steps.flatMap fun step => Intent.tasks step.intents).countP (·.action == a)

@[simp]
theorem commanded_nil (a : AbilityId) : commanded [] a = 0 := by
  rfl

theorem commanded_cons (step : Step) (steps : List Step) (a : AbilityId)
    : commanded (step :: steps) a
        =
      (Intent.tasks step.intents).countP (·.action == a) + commanded steps a := by
  unfold commanded
  rw [List.flatMap_cons, List.countP_append]

theorem commanded_append (before after : List Step) (a : AbilityId)
    : commanded (before ++ after) a = commanded before a + commanded after a := by
  unfold commanded
  rw [List.flatMap_append, List.countP_append]

theorem runs_append_iff {before after : List Step} {agent agent'' : TestAgent}
    : Runs agent (before ++ after) agent''
        ↔
      ∃ agent', Runs agent before agent' ∧ Runs agent' after agent'' := by
  induction before generalizing agent with
  | nil =>
    constructor
    . intro h
      exact ⟨agent, .nil agent, h⟩
    . intro h
      rcases h with ⟨agent', hnil, h⟩
      cases hnil
      exact h
  | cons step before ih =>
    constructor
    . intro h
      cases h with
      | cons hplays h =>
        rcases ih.mp h with ⟨agent', hbefore, hafter⟩
        exact ⟨agent', .cons hplays hbefore, hafter⟩
    . intro h
      rcases h with ⟨agent', hbefore, hafter⟩
      cases hbefore with
      | cons hplays hbefore => exact .cons hplays (ih.mpr ⟨agent', hbefore, hafter⟩)

theorem taken_of_runs {agent agent' : TestAgent} {steps : List Step} (h : Runs agent steps agent')
    (a : AbilityId) : agent'.taken a = agent.taken a + commanded steps a := by
  induction h with
  | nil agent => simp
  | cons hplays _ ih => rw [ih, (updated_of_plays hplays).taken, commanded_cons, Nat.add_assoc]

theorem taken_eq_commanded {agent : TestAgent} {steps : List Step} (h : Runs {} steps agent)
    : agent.taken = commanded steps := by
  funext a
  rw [taken_of_runs h]
  apply Nat.zero_add

theorem runs_of_step {agent agent' : Agent TestAgent} {start : TestAgent} {steps : List Step}
    (hruns : Runs start steps agent.state) (dice : Dice)
    (hupdate : agent.update = fun state obs => state.update dice obs) (hact : agent.sc2.act = {})
    {response : Proto.ResponseObservation} {log : Exchanges} {request : Proto.Request}
    (h : Dialogue.Runs (agent.step response) log (.ok (request, agent')))
    : ∃ step, step.dice = dice ∧ agent.sc2.obs.update response = .ok step.obs ∧
        Carries request (Intent.calls step.intents) ∧
        Runs start (steps ++ [step]) agent'.state := by
  rcases step_spec hact h with ⟨obs, intents, hsteps, -⟩
  have hplays := hsteps.plays
  rw [hupdate] at hplays
  refine ⟨⟨obs, dice, intents⟩, rfl, hsteps.observed, hsteps.carries, ?_⟩
  apply runs_append_iff.mpr
  exact ⟨agent.state, hruns, .cons hplays (.nil _)⟩

theorem step_of_runs {before after : List Step} {step : Step} {agent : TestAgent}
    (h : Runs {} (before ++ step :: after) agent)
    : ∃ agent₁ agent₂, Runs {} before agent₁ ∧
        Plays [] (agent₁.update step.dice step.obs) step.intents agent₂ := by
  rcases runs_append_iff.mp h with ⟨agent₁, hbefore, hrest⟩
  cases hrest with
  | cons hplays _ => exact ⟨agent₁, _, hbefore, hplays⟩

theorem commanded_step {before after : List Step} {step : Step} {agent : TestAgent}
    (h : Runs {} (before ++ step :: after) agent) (a : AbilityId)
    : commanded (before ++ [step]) a
        =
      commanded before a + demand (commanded before) step.obs step.intents a := by
  rcases step_of_runs h with ⟨agent₁, agent₂, hbefore, hplays⟩
  rw [commanded_append, commanded_cons, commanded_nil, Nat.add_zero,
    (updated_of_plays hplays).count, taken_eq_commanded hbefore]

def Capped (steps : List Step) : Prop :=
  ∀ a, commanded steps a ≤ maxTaken a

theorem capped_nil : Capped [] := by
  intro a
  apply Nat.zero_le

def Affordable (before : List Step) (step : Step) : Prop :=
  ∀ a, commanded before a + demand (commanded before) step.obs step.intents a ≤ maxTaken a

theorem capped_step_iff {before after : List Step} {step : Step} {agent : TestAgent}
    (h : Runs {} (before ++ step :: after) agent)
    : Capped (before ++ [step]) ↔ Affordable before step := by
  unfold Capped Affordable
  simp only [commanded_step h]

theorem capped_iff {steps : List Step} {agent : TestAgent} (h : Runs {} steps agent)
    : (∀ before, before <+: steps → Capped before)
        ↔
      ∀ before step, before ++ [step] <+: steps → Affordable before step := by
  constructor
  . intro hcapped before step hprefix
    rcases hprefix with ⟨after, rfl⟩
    rw [List.append_assoc, List.singleton_append] at h
    apply (capped_step_iff h).mp
    apply hcapped
    apply List.prefix_append
  . intro hafford before hprefix
    rcases List.eq_nil_or_concat' before with rfl | ⟨before, step, rfl⟩
    . exact capped_nil
    . have hstep := hafford before step hprefix
      rcases hprefix with ⟨after, rfl⟩
      rw [List.append_assoc, List.singleton_append] at h
      apply (capped_step_iff h).mpr hstep

def facility (tag : Tag) : Unit :=
  Proto.Unit.withOrders {
    tag := some tag
    unitType := some UnitTypeId.protossRoboticsFacility.val.toUInt32
    buildProgress := some 1
  } []

def facilities : Observation :=
  { Observation.new default [] [] with self := [facility 1, facility 2] }

def calmDice : Dice where
  partition := .keep
  shuffle := .keep
  offsets _ _ := ⟨0, 0⟩

def offering (offers : List PossibleAction) : Intent :=
  .query (.abilities facilities.self false) [(Query.abilitiesRequest facilities.self false, some {
    payload := some (.query {
      abilities := offers.map fun offer => {
        abilities := [{ abilityId := some offer.action.val }]
        unitTag := some offer.executor
      }
    })
  })]

def training (offers : List PossibleAction) : Step where
  obs := facilities
  dice := calmDice
  intents := offering offers :: offers.map fun offer =>
    .act (.commandTask { executor := offer.executor, action := offer.action, target := none } false)

def observerTwice : Step :=
  training [⟨.trainObserver, 1⟩, ⟨.trainObserver, 2⟩]

def afterObservers : TestAgent :=
  ((({} : TestAgent).read .trainObserver).read .trainObserver).set .trainObserver 1
    |>.set .trainObserver 2

set_option maxRecDepth 4096 in
theorem runs_observerTwice : Runs {} [observerTwice] afterObservers := by
  apply Runs.cons _ (.nil _)
  apply Plays.answer
  . exact .ask _ _ _ (.done _)
  . exact .act (.act (.done _ _))

theorem capped_iff_observers
    : (∀ before, before <+: [observerTwice] → Capped before)
        ↔
      ∀ before step, before ++ [step] <+: [observerTwice] → Affordable before step := by
  apply capped_iff runs_observerTwice

theorem not_capped_observers
    : ¬ ∀ steps agent, Runs {} steps agent → ∀ before, before <+: steps → Capped before := by
  intro h
  have hle := h _ _ runs_observerTwice _ (List.prefix_refl _) .trainObserver
  have hmax : maxTaken .trainObserver = 1 := by decide
  have hcommanded : commanded [observerTwice] .trainObserver = 2 := by decide
  omega

end Sc2.TestAgent
