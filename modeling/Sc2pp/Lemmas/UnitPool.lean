import Sc2pp.Impl.UnitPool
import Sc2pp.Util.Run
import Mathlib.Data.List.Nodup

/-!
This module contains what the unit pool is for: each update reports how the player's own units
changed since the list before. The invariant is that the map of the pool holds exactly the own units
of the last list.
-/

namespace Sc2

def selfUnits (units : Units) : Units :=
  units.filter (fun x => x.alliance == .self)

def selfTags (units : Units) : List Tag :=
  (selfUnits units).map Unit.tag

def UniqueTags (units : Units) : Prop :=
  (units.map Unit.tag).Nodup

instance (units : Units) : Decidable (UniqueTags units) :=
  inferInstanceAs (Decidable (units.map Unit.tag).Nodup)

/-- `all` and `changes` are what there is to say about the list `cur` that followed `prev`. -/
structure FrameDiff (prev cur all : Units) (changes : UnitPool.Changes) : Prop where
  all_eq : all = cur
  self_eq : changes.self = selfUnits cur
  newUnits_eq : changes.newUnits = (selfUnits cur).filter (fun x => x.tag ∉ selfTags prev)
  damaged_eq : changes.damaged = (selfUnits cur).filter
    (fun x => ∃ p ∈ selfUnits prev, p.tag = x.tag ∧ getHealth x < getHealth p)
  disjoint : ∀ c ∈ changes.newUnits, ∀ d ∈ changes.damaged, c.tag ≠ d.tag
  either : ∀ x ∈ changes.self, x ∈ changes.newUnits ∨ x.tag ∈ selfTags prev
  not_both : ∀ x ∈ changes.newUnits, x.tag ∉ selfTags prev

theorem mem_selfUnits {units : Units} {x : Unit}
    : x ∈ selfUnits units ↔ x ∈ units ∧ x.alliance = .self := by
  simp [selfUnits]

theorem mem_selfTags {units : Units} {t : Tag}
    : t ∈ selfTags units ↔ ∃ x ∈ selfUnits units, x.tag = t := by
  simp [selfTags]

theorem UniqueTags.eq_of_tag_eq {units : Units} (h : UniqueTags units) {x y : Unit}
    (hx : x ∈ selfUnits units) (hy : y ∈ selfUnits units) (htag : x.tag = y.tag) : x = y := by
  rw [mem_selfUnits] at hx hy
  apply List.inj_on_of_nodup_map h hx.1 hy.1 htag

namespace UnitMap

def ofUnits (units : Units) : UnitMap :=
  ofRange ((selfUnits units).map (fun x => (x.tag, x)))

theorem lookup_map_tag {units : Units} {t : Tag} {x : Unit}
    (h : (units.map (fun x => (x.tag, x))).lookup t = some x) : x ∈ units ∧ x.tag = t := by
  induction units with
  | nil => simp at h
  | cons y units ih =>
    simp only [List.map_cons, List.lookup_cons] at h
    split at h
    . next heq =>
      simp only [Option.some.injEq] at h
      subst h
      simp only [beq_iff_eq] at heq
      simp [heq]
    . rcases ih h with ⟨hmem, htag⟩
      exact ⟨by simp [hmem], htag⟩

theorem contains_ofUnits {units : Units} {t : Tag}
    : (ofUnits units).contains t = true ↔ t ∈ selfTags units := by
  simp only [contains, ofUnits, ofRange, List.lookup_isSome_iff, List.mem_map, mem_selfTags]
  constructor
  . intro h
    rcases h with ⟨p, ⟨x, hx, rfl⟩, htag⟩
    exact ⟨x, hx, (eq_of_beq htag).symm⟩
  . intro h
    rcases h with ⟨x, hx, rfl⟩
    exact ⟨(x.tag, x), ⟨x, hx, rfl⟩, by simp⟩

theorem lookup_of_mem {units : Units} {t : Tag} (h : t ∈ selfTags units)
    : ∃ p, (ofUnits units).entries.lookup t = some p := by
  rwa [← contains_ofUnits, contains, Option.isSome_iff_exists] at h

end UnitMap

def damagedSince (prev : Units) (x : Unit) : Bool :=
  match (UnitMap.ofUnits prev).entries.lookup x.tag with
  | some p => getHealth x < getHealth p
  | none => false

theorem damagedSince_iff {prev : Units} (h : UniqueTags prev) {x : Unit}
    : damagedSince prev x = true ↔
        ∃ p ∈ selfUnits prev, p.tag = x.tag ∧ getHealth x < getHealth p := by
  unfold damagedSince
  split
  . next p hp =>
    rcases UnitMap.lookup_map_tag hp with ⟨hmem, htag⟩
    rw [decide_eq_true_iff]
    constructor
    . exact fun hlt => ⟨p, hmem, htag, hlt⟩
    . intro h
      rcases h with ⟨q, hq, hqtag, hlt⟩
      -- Tags are unique, so the unit that was found is the one the statement speaks of.
      have : q = p := h.eq_of_tag_eq hq hmem (by rw [hqtag, htag])
      rwa [this] at hlt
  . next hnone =>
    simp only [Bool.false_eq_true, false_iff]
    intro h
    rcases h with ⟨p, hp, htag, -⟩
    have hcontains : (UnitMap.ofUnits prev).contains x.tag = true := by
      rw [UnitMap.contains_ofUnits, mem_selfTags]
      exact ⟨p, hp, htag⟩
    simp [UnitMap.contains, hnone] at hcontains

namespace UnitPool

def Follows (prev : Units) (pool : UnitPool) : Prop :=
  pool.prevUnits = UnitMap.ofUnits prev

theorem follows_empty : Follows [] {} := by
  rfl

theorem damaged_test {prev : Units} {x : Unit} (hx : x.tag ∈ selfTags prev)
    : (do
        let p ← (UnitMap.ofUnits prev).atKey x.tag
        return decide (getHealth x < getHealth p) : Outcome Bool)
        =
      .ok (damagedSince prev x) := by
  rcases UnitMap.lookup_of_mem hx with ⟨p, hp⟩
  simp [UnitMap.atKey, damagedSince, hp]

theorem update_eq {prev : Units} {pool : UnitPool} (h : Follows prev pool) (units : Units)
    : pool.update units = .ok (
        {
          newUnits := (selfUnits units).filter (fun x => x.tag ∉ selfTags prev)
          damaged := ((selfUnits units).filter (fun x => x.tag ∈ selfTags prev)).filter
            (damagedSince prev)
          self := selfUnits units
        },
        { units := units, prevUnits := UnitMap.ofUnits units }
      ) := by
  have hexisting : (selfUnits units).filter (fun u => (UnitMap.ofUnits prev).contains u.tag)
      = (selfUnits units).filter (fun u => u.tag ∈ selfTags prev) := by
    apply List.filter_congr
    intro x _
    rw [Bool.eq_iff_iff, UnitMap.contains_ofUnits, decide_eq_true_iff]
  have hnew : (selfUnits units).filter (fun u => !(UnitMap.ofUnits prev).contains u.tag)
      = (selfUnits units).filter (fun u => u.tag ∉ selfTags prev) := by
    apply List.filter_congr
    intro x _
    rw [Bool.eq_iff_iff]
    simp [← UnitMap.contains_ofUnits]
  have hdamaged : ∀ x ∈ (selfUnits units).filter (fun u => u.tag ∈ selfTags prev), _ :=
    fun x hx => damaged_test (by simpa using (List.mem_filter.mp hx).2)
  unfold update
  simp only [show pool.prevUnits = _ from h, ← selfUnits.eq_1, hexisting, hnew]
  rw [Outcome.filterM_eq_ok hdamaged]
  rfl

theorem update_spec {prev : Units} {pool : UnitPool} (h : Follows prev pool)
    (hprev : UniqueTags prev) (units : Units)
    : ∃ changes pool', pool.update units = .ok (changes, pool') ∧ Follows units pool' ∧
        FrameDiff prev units pool'.units changes := by
  refine ⟨_, _, update_eq h units, rfl, ?_⟩
  constructor
  . rfl
  . rfl
  . rfl
  . rw [List.filter_filter]
    apply List.filter_congr
    intro x _
    rw [Bool.eq_iff_iff]
    simp only [Bool.and_eq_true, decide_eq_true_eq, damagedSince_iff hprev]
    constructor
    . exact fun hx => hx.1
    . intro h
      rcases h with ⟨p, hp, htag, hlt⟩
      exact ⟨⟨p, hp, htag, hlt⟩, mem_selfTags.mpr ⟨p, hp, htag⟩⟩
  . intro c hc d hd htag
    simp only [List.mem_filter, decide_eq_true_eq] at hc hd
    apply hc.2 (htag ▸ hd.1.2)
  . intro x hx
    simp only [List.mem_filter, decide_eq_true_eq]
    by_cases hprev : x.tag ∈ selfTags prev
    . exact .inr hprev
    . exact .inl ⟨hx, hprev⟩
  . intro x hx
    simpa using (List.mem_filter.mp hx).2

abbrev Reported := Changes × UnitPool

def step (s : Reported) (units : Units) : Outcome Reported :=
  s.2.update units

theorem step_spec (prev units cur : Units) (s : Reported)
    (hs : s.2.Follows prev ∧ UniqueTags prev) (hcur : units = cur ∧ UniqueTags cur)
    : ∃ s', step s units = .ok s' ∧ (s'.2.Follows cur ∧ UniqueTags cur) ∧
        FrameDiff prev cur s'.2.units s'.1 := by
  rcases hcur with ⟨rfl, hunique⟩
  rcases update_spec hs.1 hs.2 units with ⟨changes, pool, hupdate, hfollows, hdiff⟩
  exact ⟨(changes, pool), hupdate, ⟨hfollows, hunique⟩, hdiff⟩

end UnitPool

end Sc2
