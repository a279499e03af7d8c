import Sc2pp.Impl.SC2Context
import Sc2pp.Lemmas.Map
import Sc2pp.Lemmas.Observation
import Sc2pp.Util.Run

/-!
This module contains what the map of a context knows about the resources its observations show. The
observations so far are the unit lists `seen`, oldest first. A resource persists if every one of them
shows it at its place, a tile is covered if one of them shows something on it that is drawn later.
-/

namespace Sc2.SC2Context

open Utils Map

def SameResource (u v : Unit) : Prop :=
  v.tag = u.tag ∧ v.unitType = u.unitType ∧ v.pos = u.pos

def Persists (seen : List Units) (u : Unit) : Prop :=
  ∀ units ∈ seen, ∃ v ∈ units, SameResource u v

def CoveredIn (seen : List Units) (kind : Unit → Bool) (p : Point2DI) : Prop :=
  ∃ units ∈ seen, Covered kind units p

def isAfterMinerals (u : Unit) : Bool :=
  isGeyser u || type .protossNexus u

def Marked (map : Map) (seen : List Units) (kind later : Unit → Bool) (mark : Char) : Prop :=
  ∀ u, Persists seen u → kind u = true → ∀ p ∈ unitTiles u,
    map.topology.cell p = some mark ∨ CoveredIn seen later p

def ResourcesMarked (map : Map) (seen : List Units) : Prop :=
  Marked map seen isMineral isAfterMinerals '*' ∧
  Marked map seen isGeyser (type .protossNexus) '$'

def Hidden (units : Units) (kind later : Unit → Bool) : Prop :=
  ∀ u ∈ units, kind u = true → ∀ p ∈ unitTiles u, Covered later units p

def ResourcesHidden (units : Units) : Prop :=
  Hidden units isMineral isAfterMinerals ∧ Hidden units isGeyser (type .protossNexus)

theorem SameResource.unitTiles_eq {u v : Unit} (h : SameResource u v)
    : unitTiles v = unitTiles u := by
  rcases h with ⟨-, htype, hpos⟩
  simp only [unitTiles, htype, hpos]

theorem marked_of_hidden {map : Map} {units : Units} {seen : List Units} {kind later : Unit → Bool}
    {mark : Char} (hkind : ∀ u v, SameResource u v → kind v = kind u) (hmem : units ∈ seen)
    (h : Hidden units kind later) : Marked map seen kind later mark := by
  intro u hpersists hu p hp
  rcases hpersists units hmem with ⟨v, hv, hsame⟩
  refine .inr ⟨units, hmem, h v hv (by rw [hkind u v hsame, hu]) p ?_⟩
  rwa [hsame.unitTiles_eq]

theorem hidden_of_marked {map : Map} {units : Units} {kind later : Unit → Bool} {mark : Char}
    (hmark : ∀ p, map.topology.cell p ≠ some mark) (h : Marked map [units] kind later mark)
    : Hidden units kind later := by
  intro u hu hkind p hp
  have hpersists : Persists [units] u := by
    intro units' hunits'
    rw [List.mem_singleton.mp hunits']
    exact ⟨u, hu, rfl, rfl, rfl⟩
  rcases h u hpersists hkind p hp with hcell | ⟨units', hunits', hcovered⟩
  . exact absurd hcell (hmark p)
  . rwa [List.mem_singleton.mp hunits'] at hcovered

theorem new_spec {obs : Observation} {context : SC2Context} (h : new obs = .ok context)
    : context.obs = obs ∧ Map.new obs = .ok context.map := by
  simp only [new, Outcome.bind_eq_ok, Outcome.pure_eq_ok, Except.ok.injEq] at h
  rcases h with ⟨map, hmap, rfl⟩
  exact ⟨rfl, hmap⟩

theorem update_spec (map : Map) (prev : Units) (response : Proto.ResponseObservation) (cur : Units)
    (context : SC2Context) (h : context.obs.unitPool.Follows prev ∧ context.map = map)
    (hcur : Observes response cur)
    : ∃ context', context.update response = .ok context' ∧
        (context'.obs.unitPool.Follows cur ∧ context'.map = map) ∧ context'.map = map := by
  rcases Observation.created_spec prev response cur context.obs h.1 hcur
    with ⟨obs, hupdate, hfollows, -⟩
  refine ⟨{ context with obs := obs }, ?_, ⟨hfollows, h.2⟩, h.2⟩
  unfold update
  rw [hupdate, Outcome.bind_ok, Outcome.pure_eq_ok]

theorem run_keeps_map {obs : Observation} {context : SC2Context} (hnew : new obs = .ok context)
    (hpool : obs.unitPool.Follows []) {rs : List Proto.ResponseObservation} {us : List Units}
    (hobserves : List.Forall₂ Observes rs us)
    : ∃ ss, Run.states update context rs = .ok ss ∧ ss.length = us.length ∧
        ∀ k (hk : k < ss.length), ss[k].map = context.map := by
  rcases new_spec hnew with ⟨hobs, -⟩
  rcases Run.states_of_last (update_spec context.map) hobserves [] [] context
      ⟨hobs ▸ hpool, rfl⟩ with ⟨ss, hss, hlen, hall⟩
  exact ⟨ss, hss, hlen, fun k hk => hall k (by omega) hk⟩

theorem never_marks {obs : Observation} {context : SC2Context} (hnew : new obs = .ok context)
    (hunits : obs.units = []) {mark : Char} (hmark : mark ∉ ['#', ' ', '/']) (p : Point2DI)
    : context.map.topology.cell p ≠ some mark := by
  intro hcell
  apply hmark (new_of_no_units hunits (new_spec hnew).2 hcell)

theorem resources_marked_iff (gameInfo : GameInfo) (unitTypeData : List Proto.UnitTypeData)
    (abilityData : List Proto.AbilityData) {context : SC2Context}
    (hnew : new (Observation.new gameInfo unitTypeData abilityData) = .ok context)
    {rs : List Proto.ResponseObservation} {first : Units} {us : List Units}
    (hobserves : List.Forall₂ Observes rs (first :: us))
    : ∃ ss, Run.states update context rs = .ok ss ∧ ss.length = (first :: us).length ∧
        ((∀ k (hk : k < ss.length), ResourcesMarked ss[k].map ((first :: us).take (k + 1)))
          ↔
        ResourcesHidden first) := by
  rcases run_keeps_map hnew UnitPool.follows_empty hobserves with ⟨ss, hss, hlen, hall⟩
  refine ⟨ss, hss, hlen, ?_⟩
  constructor
  . intro h
    have hfirst := h 0 (by simp [hlen])
    rw [hall 0 (by simp [hlen])] at hfirst
    exact ⟨hidden_of_marked (never_marks hnew rfl (by decide)) hfirst.1,
      hidden_of_marked (never_marks hnew rfl (by decide)) hfirst.2⟩
  . intro h k hk
    have hmem : first ∈ (first :: us).take (k + 1) := by simp
    refine ⟨marked_of_hidden ?_ hmem h.1, marked_of_hidden ?_ hmem h.2⟩
    . intro u v hsame
      simp only [isMineral, hsame.2.1]
    . intro u v hsame
      simp only [isGeyser, hsame.2.1]

theorem new_exists (obs : Observation) (hsize : SameSize obs.gameInfo)
    (hinside : FootprintsInside obs.gameInfo obs.units) : ∃ context, new obs = .ok context := by
  rcases Map.new_spec hsize hinside with ⟨map, hmap, -⟩
  simp [new, hmap]

def mineral : Proto.Unit :=
  { tag := some 3, unitType := some 341, pos := some { x := some 5, y := some 4 } }

theorem resources_marked_iff_mineral
    : ∃ context, new (Observation.new smallInfo [] []) = .ok context ∧
        ∃ ss, Run.states update context [.ofUnits [mineral]] = .ok ss ∧ ss.length = 1 ∧
          ((∀ k (hk : k < ss.length),
              ResourcesMarked ss[k].map ([[mineral.withOrders []]].take (k + 1)))
            ↔
          ResourcesHidden [mineral.withOrders []]) := by
  rcases new_exists (Observation.new smallInfo [] []) ⟨rfl, rfl⟩ (by decide)
    with ⟨context, hnew⟩
  exact ⟨context, hnew, resources_marked_iff smallInfo [] [] hnew (.cons ⟨_, _, rfl⟩ .nil)⟩

theorem mineral_unmarked
    : ∃ context, new (Observation.new smallInfo [] []) = .ok context ∧
        ∃ ss, Run.states update context [.ofUnits [mineral]] = .ok ss ∧
          ∃ hk : 0 < ss.length, ¬ ResourcesMarked ss[0].map [[mineral.withOrders []]] := by
  rcases new_exists (Observation.new smallInfo [] []) ⟨rfl, rfl⟩ (by decide)
    with ⟨context, hnew⟩
  have hobserves : List.Forall₂ Observes [.ofUnits [mineral]] [[mineral.withOrders []]] :=
    .cons ⟨_, _, rfl⟩ .nil
  rcases run_keeps_map hnew UnitPool.follows_empty hobserves with ⟨ss, hss, hlen, hall⟩
  have hpos : 0 < ss.length := by simp [hlen]
  refine ⟨context, hnew, ss, hss, hpos, ?_⟩
  intro hmarked
  rw [hall 0 hpos] at hmarked
  have hhidden := hidden_of_marked (never_marks hnew rfl (by decide)) hmarked.1
  have hcovered : ¬ Covered isAfterMinerals [mineral.withOrders []] ⟨5, 4⟩ := by
    decide +kernel
  apply hcovered (hhidden (mineral.withOrders []) (by simp) rfl ⟨5, 4⟩ (by decide +kernel))

end Sc2.SC2Context
