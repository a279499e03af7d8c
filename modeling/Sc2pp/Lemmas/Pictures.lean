import Sc2pp.Lemmas.BuildingPlacer

/-!
This module contains what a constructed placer has of the picture it was given. The constructor writes
the characters by their indices, so they can be read by their indices, but nothing ever changes the
size of the vector they are in.
-/

namespace Sc2.Utils.BuildingPlacerPattern

structure Stores (pattern : BuildingPlacerPattern) (data : List Char) (width height : Int)
    : Prop where
  indexed : ∀ p ∈ pixels width height,
    ∃ c, data[(p.y * width + p.x).toNat]? = some c ∧ pattern.getAt p = .ok c
  iterated : pattern.data.iterate = .ok data

variable {data : List Char} {width height slots : Int} {fitter : Char}
  {pattern : BuildingPlacerPattern}

theorem size_setIndex {v v' : FixedVector Char 100} {idx : Nat} {val : Char}
    (h : v.setIndex idx val = .ok v') : v'.size = v.size := by
  unfold FixedVector.setIndex at h
  split at h
  . simp only [Outcome.pure_eq_ok, Except.ok.injEq] at h
    subst h
    rfl
  . cases h

theorem copy_size {indices : List Nat} {v v' : FixedVector Char 100}
    (h : indices.foldlM (fun (cells : FixedVector Char 100) i => do
      let c ← Outcome.elementAt data i
      cells.setIndex i c) v = .ok v')
    : v'.size = v.size := by
  induction indices generalizing v with
  | nil =>
    simp only [List.foldlM_nil, Outcome.pure_eq_ok, Except.ok.injEq] at h
    rw [h]
  | cons i indices ih =>
    simp only [List.foldlM_cons, Outcome.bind_eq_ok] at h
    rcases h with ⟨v₁, ⟨c, -, hset⟩, hrest⟩
    rw [ih hrest, size_setIndex hset]

theorem blank_size (h : blank data width height fitter = .ok pattern) : pattern.data.size = 0 := by
  simp only [blank, Outcome.bind_eq_ok, Outcome.pure_eq_ok, Except.ok.injEq] at h
  rcases h with ⟨cells, hcells, rfl⟩
  apply copy_size hcells

theorem fillSlot_data {visited : Visited} {table : List (UnitTypeId × Footprint)}
    {state : BuildingPlacerPattern × Visited} (h : pattern.fillSlot visited table = .ok state)
    : state.1.data = pattern.data := by
  induction table generalizing visited with
  | nil =>
    simp only [fillSlot, Outcome.pure_eq_ok, Except.ok.injEq] at h
    rw [← h]
  | cons entry rest ih =>
    unfold fillSlot at h
    split at h
    . apply ih h
    . rw [Outcome.bind_eq_ok] at h
      rcases h with ⟨⟨center, visited'⟩, -, h⟩
      cases center with
      | none => exact ih h
      | some center =>
        simp only [Outcome.bind_eq_ok, Outcome.pure_eq_ok, Except.ok.injEq] at h
        rcases h with ⟨footprints, -, rfl⟩
        rfl

theorem fillSlots_data {visited : Visited} {n : Nat} {state : BuildingPlacerPattern × Visited}
    (h : pattern.fillSlots visited n = .ok state) : state.1.data = pattern.data := by
  induction n generalizing state with
  | zero =>
    simp only [fillSlots, Outcome.pure_eq_ok, Except.ok.injEq] at h
    rw [← h]
  | succ n ih =>
    simp only [fillSlots, Outcome.bind_eq_ok] at h
    rcases h with ⟨state₁, hfill, hslot⟩
    rw [fillSlot_data hslot, ih hfill]

theorem new_asserts (h : new data width height slots fitter = .ok pattern)
    : slots ≤ 5 ∧ width * height ≤ 100 := by
  simp only [new, Outcome.bind_eq_ok, Outcome.assertThat_eq_ok, decide_eq_true_eq] at h
  rcases h with ⟨-, hslots, -, harea, -⟩
  exact ⟨hslots, harea⟩

theorem new_size (h : new data width height slots fitter = .ok pattern) : pattern.data.size = 0 := by
  rcases new_asserts h with ⟨hslots, harea⟩
  rcases (new_eq_ok hslots harea).mp h with ⟨visited, hafter⟩
  rw [afterSlots, Outcome.bind_eq_ok] at hafter
  rcases hafter with ⟨blankPattern, hblank, hfill⟩
  have hdata : pattern.data = blankPattern.data := fillSlots_data hfill
  rw [hdata]
  apply blank_size hblank

theorem new_iterate (h : new data width height slots fitter = .ok pattern)
    : pattern.data.iterate = .ok [] := by
  rw [FixedVector.iterate_eq, FixedVector.elements, new_size h, List.take_zero]

theorem new_indexed (hreadable : (width * height).toNat ≤ data.length)
    (h : new data width height slots fitter = .ok pattern) {p : Point2DI}
    (hp : p ∈ pixels width height)
    : ∃ c, data[(p.y * width + p.x).toNat]? = some c ∧ pattern.getAt p = .ok c := by
  rcases new_asserts h with ⟨hslots, harea⟩
  rcases (new_eq_ok hslots harea).mp h with ⟨visited, hafter⟩
  apply getAt_of_mem (afterSlots_holds harea hreadable hafter).shows hp

theorem new_stores_iff (hdata : data.length = (width * height).toNat)
    (h : new data width height slots fitter = .ok pattern)
    : pattern.Stores data width height ↔ width * height ≤ 0 := by
  constructor
  . intro hstores
    have hiterated := hstores.iterated
    rw [new_iterate h, Except.ok.injEq] at hiterated
    rw [← hiterated, List.length_nil] at hdata
    omega
  . intro harea
    constructor
    . intro p hp
      apply new_indexed (by omega) h hp
    . rw [new_iterate h, List.length_eq_zero_iff.mp (show data.length = 0 by omega)]

theorem new_row
    : ∃ pattern, new ['b', '.'] 2 1 0 'x' = .ok pattern := by
  exact ⟨_, rfl⟩

theorem new_stores_iff_row
    : ∃ pattern, new ['b', '.'] 2 1 0 'x' = .ok pattern ∧
        (pattern.Stores ['b', '.'] 2 1 ↔ (2 : Int) * 1 ≤ 0) := by
  rcases new_row with ⟨pattern, hnew⟩
  exact ⟨pattern, hnew, new_stores_iff (by decide) hnew⟩

theorem row_not_stored
    : ¬ ∀ (data : List Char) (width height slots : Int) (fitter : Char)
        (pattern : BuildingPlacerPattern), width * height ≤ 100 →
          data.length = (width * height).toNat →
            new data width height slots fitter = .ok pattern → pattern.Stores data width height := by
  intro h
  rcases new_row with ⟨pattern, hnew⟩
  have hstores := h ['b', '.'] 2 1 0 'x' pattern (by decide) (by decide) hnew
  have hiterated := hstores.iterated
  rw [new_iterate hnew] at hiterated
  cases hiterated

end Sc2.Utils.BuildingPlacerPattern
