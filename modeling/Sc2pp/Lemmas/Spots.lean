import Sc2pp.Lemmas.PlacementOrder
import Sc2pp.Lemmas.TestAgent

/-!
This module contains what the test agent asks when it looks for a place. For each candidate there is a
list of spots, it depends on the observation and the dice alone. The agent asks for one spot after the
other until one is granted.
-/

namespace Sc2

open Agent Utils

namespace Agent.Intent

theorem calls_append (intents intents' : List Intent)
    : calls (intents ++ intents') = calls intents ++ calls intents' := by
  induction intents with
  | nil => rfl
  | cons intent intents ih =>
    cases intent with
    | act call => simp [calls, ih]
    | query call log => simp [calls, ih]

theorem requests_append (intents intents' : List Intent)
    : requests (intents ++ intents') = requests intents ++ requests intents' := by
  induction intents with
  | nil => rfl
  | cons intent intents ih =>
    cases intent with
    | act call => simp [requests, ih]
    | query call log => simp [requests, ih]

end Agent.Intent

namespace Agent.Program

variable {α β γ : Type}

theorem bind_done (program : Program α) : program.bind done = program := by
  induction program with
  | done a => rfl
  | fail fault => rfl
  | act call k ih => simp only [bind, ih]
  | has k ih => simp only [bind, ih]
  | query call k ih => simp only [bind, ih]

theorem bind_bind (program : Program α) (f : α → Program β) (g : β → Program γ)
    : (program.bind f).bind g = program.bind fun a => (f a).bind g := by
  induction program with
  | done a => rfl
  | fail fault => rfl
  | act call k ih => simp only [bind, ih]
  | has k ih => simp only [bind, ih]
  | query call k ih => simp only [bind, ih]

instance : LawfulMonad Program :=
  LawfulMonad.mk' _ bind_done (fun _ _ => rfl) bind_bind

theorem Ensures.map {program : Program α} {f : α → β} {post : List Intent → β → Prop}
    (h : Ensures program fun intents a => post intents (f a)) : Ensures (f <$> program) post := by
  rw [map_eq_pure_bind]
  apply h.bind
  intro intents a ha
  apply Ensures.pure
  rwa [List.append_nil]

end Agent.Program

namespace TestAgent

structure Spot where
  building : AbilityId
  pos : Point2D
  deriving DecidableEq, Repr

namespace Spot

def call (spot : Spot) : Query.Call :=
  .placement spot.building spot.pos false

def denied (spot : Spot) : Query.Call × Query.Answer :=
  (spot.call, .placement false)

def granted (spot : Spot) : Query.Call × Query.Answer :=
  (spot.call, .placement true)

def task (executor : Tag) (spot : Spot) : Task where
  executor := executor
  action := spot.building
  target := some (.point spot.pos)

end Spot

structure Scanned (spots : List Spot) (found : Option Spot) (intents : List Intent) : Prop where
  noCalls : Intent.calls intents = []
  requests : Intent.requests intents = (Intent.answered intents).flatMap fun e => e.1.requests
  answered : ∃ denied rest, spots = denied ++ found.toList ++ rest ∧ (found = none → rest = []) ∧
    Intent.answered intents = denied.map Spot.denied ++ found.toList.map Spot.granted

theorem Scanned.nil : Scanned [] none [] where
  noCalls := rfl
  requests := rfl
  answered := ⟨[], [], rfl, fun _ => rfl, rfl⟩

theorem Scanned.append {spots spots' : List Spot} {found : Option Spot}
    {intents intents' : List Intent} (h : Scanned spots none intents)
    (h' : Scanned spots' found intents') : Scanned (spots ++ spots') found (intents ++ intents') := by
  rcases h.answered with ⟨denied, rest, rfl, hrest, hanswered⟩
  rcases h'.answered with ⟨denied', rest', rfl, hrest', hanswered'⟩
  constructor
  . rw [Intent.calls_append, h.noCalls, h'.noCalls, List.append_nil]
  . rw [Intent.requests_append, Intent.answered_append, List.flatMap_append, h.requests, h'.requests]
  . refine ⟨denied ++ denied', rest', ?_, hrest', ?_⟩
    . simp [hrest rfl]
    . rw [Intent.answered_append, hanswered, hanswered']
      simp

theorem Scanned.stop {spots : List Spot} {spot : Spot} {intents : List Intent}
    (h : Scanned spots (some spot) intents) (spots' : List Spot)
    : Scanned (spots ++ spots') (some spot) intents := by
  rcases h.answered with ⟨denied, rest, rfl, -, hanswered⟩
  refine ⟨h.noCalls, h.requests, denied, rest ++ spots', ?_, by simp, hanswered⟩
  simp

theorem placement_scanned (spot : Spot)
    : (Program.placement spot.building spot.pos).Ensures fun intents possible =>
        Scanned [spot] (if possible then some spot else none) intents := by
  apply Program.Ensures.asking
  intro log answer possible hruns hanswer
  cases answer with
  | placement possible' =>
    cases hanswer
    have hanswered := Intent.answered_query hruns
    constructor
    . rfl
    . rw [hanswered]
      rfl
    . rw [hanswered]
      cases possible with
      | true => exact ⟨[], [], rfl, by simp, rfl⟩
      | false => exact ⟨[spot], [], rfl, by simp, rfl⟩
  | _ => cases hanswer

theorem findM?_scanned {α : Type} (xs : List α) (spot : α → Spot)
    : (xs.findM? fun x => Program.placement (spot x).building (spot x).pos).Ensures
        fun intents found => Scanned (xs.map spot) (found.map spot) intents := by
  induction xs with
  | nil => exact .pure .nil
  | cons x xs ih =>
    rw [List.findM?]
    apply (placement_scanned (spot x)).bind
    intro intents possible h
    cases possible with
    | true =>
      apply Program.Ensures.pure
      rw [List.append_nil]
      exact h.stop (xs.map spot)
    | false =>
      apply ih.imp
      intro intents' found h'
      exact h.append h'

theorem findSomeM?_scanned {α β : Type} {xs : List α} {f : α → Program (Option β)}
    {spots : α → List Spot} {g : Spot → β}
    (hf : ∀ x, (f x).Ensures fun intents b =>
      ∃ found, b = Option.map g found ∧ Scanned (spots x) found intents)
    : (xs.findSomeM? f).Ensures fun intents b =>
        ∃ found, b = Option.map g found ∧ Scanned (xs.flatMap spots) found intents := by
  induction xs with
  | nil => exact .pure ⟨none, rfl, .nil⟩
  | cons x xs ih =>
    rw [List.findSomeM?, List.flatMap_cons]
    apply (hf x).bind
    intro intents b h
    rcases h with ⟨found, rfl, h⟩
    cases found with
    | some spot =>
      apply Program.Ensures.pure
      rw [List.append_nil]
      exact ⟨some spot, rfl, h.stop (xs.flatMap spots)⟩
    | none =>
      apply ih.imp
      intro intents' b h'
      rcases h' with ⟨found, rfl, h'⟩
      exact ⟨found, rfl, h.append h'⟩

def tileSpots (building : AbilityId) (pylon : Unit) : List Spot :=
  (BuildPos.tiles (.ofPoint3D pylon.pos) pylonRadius).map fun tile => ⟨building, tile.toPoint2D⟩

def anchorSpots (obs : Observation) (building : AbilityId) : List Spot :=
  ((obs.unitsSelf.filter (type .protossPylon)).filter built).flatMap (tileSpots building)

def pylonSpots (obs : Observation) (offsets : Nat → Point2D) : List Spot :=
  match obs.unitsSelf.filter (type .protossNexus) with
  | [] => []
  | nexus :: _ => (List.range 100).map fun i =>
    ⟨.buildPylon, randPointNear (offsets i) (.ofPoint3D nexus.pos)⟩

def spots (obs : Observation) (offsets : Nat → Point2D) (action : AbilityId) : List Spot :=
  if action = .buildPylon then
    pylonSpots obs offsets
  else
    anchorSpots obs action ++
      if enoughFood obs (obs.unitsSelf.filter (type .protossPylon)) then []
        else pylonSpots obs offsets

theorem findBuildposNear_scanned (building : AbilityId) (pylon : Unit)
    : (findBuildposNear Program.placement (.ofPoint3D pylon.pos) pylonRadius building).Ensures
        fun intents pos =>
          ∃ found, pos = Option.map Spot.pos found ∧
            Scanned (tileSpots building pylon) found intents := by
  rw [BuildPos.findBuildposNear_eq_findM?]
  apply Program.Ensures.map
  apply (findM?_scanned _ fun tile : Point2DI => ⟨building, tile.toPoint2D⟩).imp
  intro intents found h
  refine ⟨_, ?_, h⟩
  rw [Option.map_map]
  rfl

theorem findAnchorPoint_scanned (obs : Observation) (building : AbilityId)
    : (findAnchorPoint obs building).Ensures fun intents pos =>
        ∃ found, pos = Option.map Spot.pos found ∧
          Scanned (anchorSpots obs building) found intents := by
  unfold findAnchorPoint anchorSpots
  simp only
  split
  . next hbuilt =>
    rw [Bool.and_eq_true, List.isEmpty_iff] at hbuilt
    rw [hbuilt.2]
    exact .pure ⟨none, rfl, .nil⟩
  . split
    . next hempty =>
      rw [List.isEmpty_iff.mp hempty]
      exact .pure ⟨none, rfl, .nil⟩
    . apply findSomeM?_scanned
      intro pylon
      apply findBuildposNear_scanned

theorem buildPylon_scanned (obs : Observation) (offsets : Nat → Point2D) (builder : Tag)
    (force : Bool)
    : (buildPylon obs offsets builder force).Ensures fun intents task =>
        ∃ found, task = Option.map (Spot.task builder) found ∧
          Scanned
            (if force && enoughFood obs (obs.unitsSelf.filter (type .protossPylon)) then []
              else pylonSpots obs offsets)
            found intents := by
  unfold buildPylon
  simp only
  split
  . exact .pure ⟨none, rfl, .nil⟩
  . apply Program.Ensures.lift_bind
    intro nexus hnexus
    have hspots : pylonSpots obs offsets = (List.range 100).flatMap fun i =>
        [⟨.buildPylon, randPointNear (offsets i) (.ofPoint3D nexus.pos)⟩] := by
      rw [← List.map_eq_flatMap]
      unfold pylonSpots
      cases hnexuses : obs.unitsSelf.filter (type .protossNexus) with
      | nil =>
        rw [hnexuses] at hnexus
        cases hnexus
      | cons nexus' nexuses =>
        rw [hnexuses] at hnexus
        cases hnexus
        rfl
    rw [hspots]
    apply findSomeM?_scanned
    intro i
    apply (placement_scanned ⟨.buildPylon, randPointNear (offsets i) (.ofPoint3D nexus.pos)⟩).bind
    intro intents possible h
    cases possible with
    | true =>
      apply Program.Ensures.pure
      rw [List.append_nil]
      exact ⟨_, rfl, h⟩
    | false =>
      apply Program.Ensures.pure
      rw [List.append_nil]
      exact ⟨_, rfl, h⟩

theorem Scanned.mem {spots : List Spot} {spot : Spot} {intents : List Intent}
    (h : Scanned spots (some spot) intents) : spot ∈ spots := by
  rcases h.answered with ⟨denied, rest, rfl, -⟩
  simp

theorem building_of_pylonSpots {obs : Observation} {offsets : Nat → Point2D} {spot : Spot}
    (h : spot ∈ pylonSpots obs offsets) : spot.building = .buildPylon := by
  unfold pylonSpots at h
  split at h
  . cases h
  . rcases List.mem_map.mp h with ⟨i, -, rfl⟩
    rfl

theorem building_of_anchorSpots {obs : Observation} {building : AbilityId} {spot : Spot}
    (h : spot ∈ anchorSpots obs building) : spot.building = building := by
  rcases List.mem_flatMap.mp h with ⟨pylon, -, htile⟩
  rcases List.mem_map.mp htile with ⟨tile, -, rfl⟩
  rfl

theorem building_of_spots {obs : Observation} {offsets : Nat → Point2D} {action : AbilityId}
    {spot : Spot} (h : spot ∈ spots obs offsets action)
    : spot.building = action ∨ spot.building = .buildPylon := by
  unfold spots at h
  split at h
  . exact .inr (building_of_pylonSpots h)
  . rcases List.mem_append.mp h with h | h
    . exact .inl (building_of_anchorSpots h)
    . split at h
      . cases h
      . exact .inr (building_of_pylonSpots h)

end TestAgent

end Sc2
