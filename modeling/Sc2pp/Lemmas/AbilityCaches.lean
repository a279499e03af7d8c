import Sc2pp.Impl.AbilityCaches

/-!
This module contains that the cached predicates on abilities are the plain ones, in whatever order they
are asked, and that none looks at a name twice.
-/

namespace Sc2.Utils

namespace AbilityQuestion

def plain : AbilityQuestion → Bool
  | isTrainingAbility id => Utils.isTrainingAbility id
  | isBuildingAbility id => Utils.isBuildingAbility id

def training? : AbilityQuestion → Option AbilityId
  | isTrainingAbility id => some id
  | isBuildingAbility _ => none

def building? : AbilityQuestion → Option AbilityId
  | isTrainingAbility _ => none
  | isBuildingAbility id => some id

end AbilityQuestion

namespace AbilityCaches

open AbilityQuestion

structure Correct (caches : AbilityCaches) : Prop where
  training : caches.training.Correct Utils.isTrainingAbility
  building : caches.building.Correct Utils.isBuildingAbility

theorem Correct.new : ({} : AbilityCaches).Correct where
  training := .new _
  building := .new _

structure Answered (caches : AbilityCaches) (questions : List AbilityQuestion)
    (answered : List Bool × AbilityCaches) : Prop where
  values : answered.1 = questions.map plain
  training : answered.2.training
    = (caches.training.run Utils.isTrainingAbility (questions.filterMap training?)).memo
  building : answered.2.building
    = (caches.building.run Utils.isBuildingAbility (questions.filterMap building?)).memo

theorem Correct.answers {caches : AbilityCaches} (h : caches.Correct)
    (questions : List AbilityQuestion) : caches.Answered questions (caches.answers questions) := by
  induction questions generalizing caches with
  | nil => exact ⟨rfl, rfl, rfl⟩
  | cons question questions ih =>
    cases question with
    | isTrainingAbility id =>
      have hstep := h.training.tryEmplace id
      have hcorrect : (caches.isTrainingAbility id).2.Correct := ⟨hstep.correct, h.building⟩
      have hrest := ih hcorrect
      constructor
      . rw [List.map_cons, ← hrest.values]
        exact congrArg (· :: _) hstep.value
      . exact hrest.training
      . exact hrest.building
    | isBuildingAbility id =>
      have hstep := h.building.tryEmplace id
      have hcorrect : (caches.isBuildingAbility id).2.Correct := ⟨h.training, hstep.correct⟩
      have hrest := ih hcorrect
      constructor
      . rw [List.map_cons, ← hrest.values]
        exact congrArg (· :: _) hstep.value
      . exact hrest.training
      . exact hrest.building

structure LooksOnce (f : AbilityId → Bool) (asked : List AbilityId) (memo : Memo AbilityId Bool)
    : Prop where
  looked : (Memo.new.run f asked).made = memo.keys
  nodup : memo.keys.Nodup
  asked : ∀ id, id ∈ memo.keys ↔ id ∈ asked

theorem looksOnce_run (f : AbilityId → Bool) (asked : List AbilityId)
    : LooksOnce f asked (Memo.new.run f asked).memo := by
  have hrun := (Memo.Correct.new f).run asked
  have hkeys : (Memo.new.run f asked).memo.keys = (Memo.new.run f asked).made := hrun.keys
  constructor
  . exact hkeys.symm
  . rw [hkeys]
    exact hrun.nodup
  . intro id
    rw [hkeys, hrun.made]
    simp [Memo.keys, Memo.new]

theorem answers_plain (questions : List AbilityQuestion)
    : (({} : AbilityCaches).answers questions).1 = questions.map plain ∧
      LooksOnce Utils.isTrainingAbility (questions.filterMap training?)
        (({} : AbilityCaches).answers questions).2.training ∧
      LooksOnce Utils.isBuildingAbility (questions.filterMap building?)
        (({} : AbilityCaches).answers questions).2.building := by
  have hanswered := Correct.new.answers questions
  refine ⟨hanswered.values, ?_, ?_⟩
  . rw [hanswered.training]
    apply looksOnce_run
  . rw [hanswered.building]
    apply looksOnce_run

end AbilityCaches

end Sc2.Utils
