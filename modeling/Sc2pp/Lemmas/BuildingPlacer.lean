import Sc2pp.Impl.BuildingPlacer
import Sc2pp.Lemmas.Footprints
import Sc2pp.Lemmas.Grid
import Sc2pp.Util.Greedy

/-!
This module contains what the placer of buildings lays out. The places where some footprint fits, in
the order in which the placer looks for them, are its `candidates`. The placer selects greedily from
them, where all that what was taken can block is the diagonal.
-/

namespace Sc2.Utils

def Footprint.tilesOf (placed : Point2DI × Footprint) : List Point2DI :=
  placed.2.tilesAt placed.1

namespace BuildingPlacerPattern

def diagonal (p : Point2DI) : Bool :=
  p.x == p.y

def buildable (data : List Char) (width height : Int) (p : Point2DI) : Bool :=
  decide (p ∈ pixels width height) && data[(p.y * width + p.x).toNat]? == some 'b'

def fits (data : List Char) (width height : Int) (footprint : Footprint) (center : Point2DI) : Bool :=
  (footprint.tilesAt center).all (buildable data width height)

def candidates (data : List Char) (width height : Int)
    : List (UnitTypeId × Footprint) → List (Point2DI × Footprint)
  | [] => []
  | (type, footprint) :: rest =>
    let others := candidates data width height rest
    if isBuildingType type then
      ((pixels width height).filter (fits data width height footprint)).map (·, footprint) ++ others
    else
      others

def offDiagonal (data : List Char) (width height : Int) : Option (Point2DI × Footprint) :=
  (candidates data width height allFootprints).find? fun placed => !diagonal placed.1

def blocked (taken : List (Point2DI × Footprint)) (placed : Point2DI × Footprint) : Bool :=
  diagonal placed.1 && (taken.flatMap Footprint.tilesOf).any diagonal

structure Shows (pattern : BuildingPlacerPattern) (data : List Char) (width height : Int)
    : Prop where
  size : pattern.width = width ∧ pattern.height = height
  area_le : width * height ≤ 100
  data_eq : ∀ i < (width * height).toNat, pattern.data.data[i]? = data[i]?
  readable : (width * height).toNat ≤ data.length

variable {data : List Char} {width height : Int} {pattern : BuildingPlacerPattern}

theorem getAt_of_mem (h : pattern.Shows data width height) {p : Point2DI}
    (hp : p ∈ pixels width height)
    : ∃ c, data[(p.y * width + p.x).toNat]? = some c ∧ pattern.getAt p = .ok c := by
  rcases linear_bounds hp with ⟨hnonneg, hlt⟩
  have harea := h.area_le
  have hread := h.readable
  have hidx : sizeT (p.y * pattern.width + p.x) = (p.y * width + p.x).toNat := by
    rw [h.size.1]
    unfold sizeT
    omega
  have hlen : (p.y * width + p.x).toNat < data.length := by omega
  refine ⟨data[(p.y * width + p.x).toNat], List.getElem?_eq_getElem hlen, ?_⟩
  rw [getAt, FixedVector.getIndex, Outcome.elementAt_eq_ok, hidx, h.data_eq _ (by omega)]
  apply List.getElem?_eq_getElem hlen

theorem canFit_go_eq (h : pattern.Shows data width height) (center : Point2DI)
    (deltas : List Point2DI)
    : canFit.go pattern center deltas
        =
      .ok ((deltas.map center.add).all (buildable data width height)) := by
  induction deltas with
  | nil => rfl
  | cons delta deltas ih =>
    unfold canFit.go
    rw [List.map_cons, List.all_cons, ih, h.size.1, h.size.2]
    by_cases hmem : center.add delta ∈ pixels width height
    . rcases getAt_of_mem h hmem with ⟨c, hc, hget⟩
      have hinside := mem_pixels.mp hmem
      have hx : ((center.add delta).x < 0 || width ≤ (center.add delta).x) = false := by
        simp only [Bool.or_eq_false_iff, decide_eq_false_iff_not]
        omega
      have hy : ((center.add delta).y < 0 || height ≤ (center.add delta).y) = false := by
        simp only [Bool.or_eq_false_iff, decide_eq_false_iff_not]
        omega
      simp only [hx, hy, hget, Outcome.bind_ok, buildable, hmem, hc]
      by_cases hb : c = 'b' <;> simp [hb]
    . have hoff : buildable data width height (center.add delta) = false := by
        simp [buildable, hmem]
      rw [mem_pixels] at hmem
      rw [hoff]
      by_cases hx : (center.add delta).x < 0 || width ≤ (center.add delta).x
      . simp only [hx]
        rfl
      . have hy : ((center.add delta).y < 0 || height ≤ (center.add delta).y) = true := by
          simp only [Bool.or_eq_true, decide_eq_true_eq] at hx ⊢
          omega
        simp only [hx, hy]
        rfl

theorem canFit_eq (h : pattern.Shows data width height) (footprint : Footprint)
    (center : Point2DI)
    : pattern.canFit footprint center = .ok (fits data width height footprint center) := by
  apply canFit_go_eq h center footprint.deltas

theorem count_eq (visited : Visited) (center : Point2DI)
    : visited.count Point2DI.eq center
        =
      (diagonal center && visited.elements.any diagonal) := by
  apply FixedVector.count_eq visited center

def visit (visited : Visited) (footprint : Footprint) (center : Point2DI) : Outcome Visited :=
  footprint.deltas.foldlM (fun visited t => visited.pushBack (center.add t)) visited

theorem findCenter_go_eq (h : pattern.Shows data width height) (footprint : Footprint)
    (visited : Visited) (centers : List Point2DI)
    : findCenter.go pattern footprint visited centers
        =
      match (centers.filter (fits data width height footprint)).find?
          (fun center => !(diagonal center && visited.elements.any diagonal)) with
      | some center => do
        let visited ← visit visited footprint center
        return (some center, visited)
      | none => .ok (none, visited) := by
  induction centers with
  | nil => rfl
  | cons center centers ih =>
    unfold findCenter.go
    rw [count_eq, canFit_eq h, ih]
    generalize visited.elements.any diagonal = crossed
    cases hfits : fits data width height footprint center with
    | false => cases hcenter : diagonal center <;> cases crossed <;> simp [hfits]
    | true => cases hcenter : diagonal center <;> cases crossed <;> simp [hfits, hcenter, visit]

theorem findCenter_eq (h : pattern.Shows data width height) (footprint : Footprint)
    (visited : Visited)
    : pattern.findCenter footprint visited
        =
      match ((pixels width height).filter (fits data width height footprint)).find?
          (fun center => !(diagonal center && visited.elements.any diagonal)) with
      | some center => do
        let visited ← visit visited footprint center
        return (some center, visited)
      | none => .ok (none, visited) := by
  unfold findCenter
  rw [h.size.1, h.size.2]
  apply findCenter_go_eq h footprint visited (pixels width height)

def place (pattern : BuildingPlacerPattern) (visited : Visited) (placed : Point2DI × Footprint)
    : Outcome (BuildingPlacerPattern × Visited) := do
  let visited ← visit visited placed.2 placed.1
  let footprints ← pattern.footprints.pushBack placed
  return ({ pattern with footprints := footprints }, visited)

theorem fillSlot_eq (h : pattern.Shows data width height) (visited : Visited)
    (table : List (UnitTypeId × Footprint))
    : pattern.fillSlot visited table
        =
      match (candidates data width height table).find?
          (fun placed => !(diagonal placed.1 && visited.elements.any diagonal)) with
      | some placed => place pattern visited placed
      | none => .ok (pattern, visited) := by
  induction table with
  | nil => rfl
  | cons entry rest ih =>
    rcases entry with ⟨type, footprint⟩
    unfold fillSlot candidates
    cases htype : isBuildingType type with
    | false => simp [ih]
    | true =>
      simp only [Bool.not_true, Bool.false_eq_true, if_false, if_true, List.find?_append,
        List.find?_map, Function.comp_def]
      rw [findCenter_eq h]
      cases hfind : ((pixels width height).filter (fits data width height footprint)).find?
          (fun center => !(diagonal center && visited.elements.any diagonal)) with
      | none => simp [ih]
      | some center =>
        simp only [Option.map_some, Option.some_or, place]
        cases visit visited footprint center with
        | error fault => simp
        | ok visited' => simp

structure Holds (data : List Char) (width height : Int)
    (state : BuildingPlacerPattern × Visited) (taken : List (Point2DI × Footprint)) : Prop where
  shows : state.1.Shows data width height
  footprints : state.1.footprints.elements = taken
  visited : state.2.elements = taken.flatMap Footprint.tilesOf

theorem place_holds {visited : Visited} {taken : List (Point2DI × Footprint)}
    (h : Holds data width height (pattern, visited) taken) {placed : Point2DI × Footprint}
    {state : BuildingPlacerPattern × Visited} (hplace : place pattern visited placed = .ok state)
    : Holds data width height state (taken ++ [placed]) := by
  simp only [place, Outcome.bind_eq_ok, Outcome.pure_eq_ok, Except.ok.injEq] at hplace
  rcases hplace with ⟨visited', hvisit, footprints, hpush, rfl⟩
  refine ⟨⟨h.shows.size, h.shows.area_le, h.shows.data_eq, h.shows.readable⟩, ?_, ?_⟩
  . rw [FixedVector.elements_pushBack hpush, h.footprints]
  . rw [FixedVector.elements_pushAll hvisit, h.visited, List.flatMap_append]
    simp [Footprint.tilesOf, Footprint.tilesAt]

theorem place_exists {visited : Visited} {taken : List (Point2DI × Footprint)}
    (h : Holds data width height (pattern, visited) taken) {placed : Point2DI × Footprint}
    (hslots : taken.length < 5)
    (htiles : ((taken ++ [placed]).flatMap Footprint.tilesOf).length ≤ 100)
    : ∃ state, place pattern visited placed = .ok state := by
  have hroom : visited.elements.length + placed.2.deltas.length ≤ 100 := by
    rw [h.visited]
    simpa [Footprint.tilesOf, Footprint.tilesAt] using htiles
  rcases FixedVector.pushAll_exists (f := placed.1.add) hroom with ⟨visited', hvisit⟩
  rcases FixedVector.pushBack_exists (v := pattern.footprints) (by rw [h.footprints]; exact hslots)
    placed with ⟨footprints, hpush⟩
  unfold place visit
  rw [hvisit, Outcome.bind_ok, hpush]
  exact ⟨_, rfl⟩

abbrev layout (data : List Char) (width height : Int) : Nat → List (Point2DI × Footprint) :=
  Greedy.selection blocked (candidates data width height allFootprints)

theorem fillSlot_holds {visited : Visited} {taken : List (Point2DI × Footprint)}
    (h : Holds data width height (pattern, visited) taken)
    {state : BuildingPlacerPattern × Visited}
    (hfill : pattern.fillSlot visited allFootprints = .ok state)
    : Holds data width height state
        (Greedy.next blocked (candidates data width height allFootprints) taken) := by
  rw [fillSlot_eq h.shows, h.visited] at hfill
  unfold Greedy.next blocked
  split at hfill
  . next placed hfind =>
    rw [hfind]
    apply place_holds h hfill
  . next hfind =>
    rw [hfind]
    rw [Except.ok.injEq] at hfill
    rwa [← hfill]

theorem fillSlot_exists {visited : Visited} {taken : List (Point2DI × Footprint)}
    (h : Holds data width height (pattern, visited) taken) (hslots : taken.length < 5)
    (htiles : ((Greedy.next blocked (candidates data width height allFootprints) taken).flatMap
      Footprint.tilesOf).length ≤ 100)
    : ∃ state, pattern.fillSlot visited allFootprints = .ok state := by
  rw [fillSlot_eq h.shows, h.visited]
  unfold Greedy.next blocked at htiles
  split
  . next placed hfind =>
    rw [hfind] at htiles
    apply place_exists h hslots htiles
  . exact ⟨_, rfl⟩

theorem fillSlots_holds {visited : Visited} (h : Holds data width height (pattern, visited) [])
    {slots : Nat} {state : BuildingPlacerPattern × Visited}
    (hfill : pattern.fillSlots visited slots = .ok state)
    : Holds data width height state (layout data width height slots) := by
  induction slots generalizing state with
  | zero =>
    simp only [fillSlots, Outcome.pure_eq_ok, Except.ok.injEq] at hfill
    rwa [← hfill]
  | succ slots ih =>
    simp only [fillSlots, Outcome.bind_eq_ok] at hfill
    rcases hfill with ⟨state₁, hfill₁, hfill₂⟩
    apply fillSlot_holds (ih hfill₁) hfill₂

theorem length_layout_le (slots : Nat) : (layout data width height slots).length ≤ slots := by
  induction slots with
  | zero => simp [Greedy.selection]
  | succ slots ih =>
    rw [layout, Greedy.selection_succ]
    unfold Greedy.next
    split
    . simpa using ih
    . apply Nat.le_succ_of_le ih

theorem fillSlots_exists {visited : Visited} (h : Holds data width height (pattern, visited) [])
    {slots : Nat} (hslots : slots ≤ 5)
    (htiles : ((layout data width height slots).flatMap Footprint.tilesOf).length ≤ 100)
    : ∃ state, pattern.fillSlots visited slots = .ok state := by
  induction slots with
  | zero => exact ⟨_, rfl⟩
  | succ slots ih =>
    have hinit : layout data width height slots <+: layout data width height (slots + 1) :=
      Greedy.selection_prefix (Nat.le_succ slots)
    have hle : ((layout data width height slots).flatMap Footprint.tilesOf).length
        ≤ ((layout data width height (slots + 1)).flatMap Footprint.tilesOf).length := by
      rcases hinit with ⟨rest, hrest⟩
      rw [← hrest, List.flatMap_append, List.length_append]
      omega
    rcases ih (by omega) (by omega) with ⟨state, hfill⟩
    have hlength : (layout data width height slots).length ≤ slots := length_layout_le slots
    rcases fillSlot_exists (fillSlots_holds h hfill) (by omega) htiles with ⟨state', hfill'⟩
    refine ⟨state', ?_⟩
    unfold fillSlots
    rw [hfill, Outcome.bind_ok]
    exact hfill'

theorem copy_spec {n : Nat} (hcapacity : n ≤ 100) (hreadable : n ≤ data.length)
    (v : FixedVector Char 100)
    : ∃ v', (List.range n).foldlM (fun (cells : FixedVector Char 100) i => do
          let c ← Outcome.elementAt data i
          cells.setIndex i c) v = .ok v' ∧
        ∀ i < n, v'.data[i]? = data[i]? := by
  induction n with
  | zero => exact ⟨v, rfl, by simp⟩
  | succ n ih =>
    rcases ih (by omega) (by omega) with ⟨v₁, hcopy, hdata⟩
    rw [List.range_succ, List.foldlM_append, hcopy, Outcome.bind_ok, List.foldlM_cons,
      Outcome.elementAt_of_lt (show n < data.length by omega), Outcome.bind_ok]
    unfold FixedVector.setIndex
    rw [if_pos (by omega)]
    refine ⟨_, rfl, ?_⟩
    intro i hi
    have hlength := v₁.length_data
    by_cases hin : i = n
    . subst hin
      simp only
      rw [List.getElem?_set_self (by omega), List.getElem?_eq_getElem (by omega)]
    . simp only
      rw [List.getElem?_set_ne (by omega), hdata i (by omega)]

def blank (data : List Char) (width height : Int) (fitter : Char)
    : Outcome BuildingPlacerPattern := do
  let cells ← (List.range (width * height).toNat).foldlM (fun cells i => do
    let c ← Outcome.elementAt data i
    cells.setIndex i c) FixedVector.empty
  return {
    width := width
    height := height
    fitter := fitter
    data := cells
    footprints := FixedVector.empty
  }

-- The constructor, stopped when it has gone through a number of slots.
def afterSlots (data : List Char) (width height : Int) (fitter : Char) (slots : Nat)
    : Outcome (BuildingPlacerPattern × Visited) := do
  let pattern ← blank data width height fitter
  pattern.fillSlots FixedVector.empty slots

theorem new_eq_afterSlots {slots : Int} (hslots : slots ≤ 5) (harea : width * height ≤ 100)
    (fitter : Char)
    : new data width height slots fitter
        =
      do
        let state ← afterSlots data width height fitter slots.toNat
        return state.1 := by
  simp only [new, afterSlots, blank, FixedVector.empty, Outcome.assertThat, hslots, harea, decide_true, if_true,
    Outcome.pure_eq_ok, Outcome.bind_ok, bind_assoc]

theorem blank_holds (harea : width * height ≤ 100) (hreadable : (width * height).toNat ≤ data.length)
    (fitter : Char)
    : ∃ pattern, blank data width height fitter = .ok pattern ∧
        Holds data width height (pattern, FixedVector.empty) [] := by
  have hcapacity : (width * height).toNat ≤ 100 := by omega
  rcases copy_spec hcapacity hreadable FixedVector.empty with ⟨cells, hcells, hdata⟩
  unfold blank
  rw [hcells, Outcome.bind_ok]
  exact ⟨_, rfl, ⟨⟨rfl, rfl⟩, harea, hdata, hreadable⟩, rfl, rfl⟩

theorem afterSlots_holds (harea : width * height ≤ 100)
    (hreadable : (width * height).toNat ≤ data.length) {fitter : Char} {slots : Nat}
    {state : BuildingPlacerPattern × Visited}
    (hafter : afterSlots data width height fitter slots = .ok state)
    : Holds data width height state (layout data width height slots) := by
  rcases blank_holds harea hreadable fitter with ⟨pattern, hblank, hholds⟩
  unfold afterSlots at hafter
  rw [hblank, Outcome.bind_ok] at hafter
  apply fillSlots_holds hholds hafter

theorem afterSlots_exists {slots : Nat} (hslots : slots ≤ 5) (harea : width * height ≤ 100)
    (hreadable : (width * height).toNat ≤ data.length) (fitter : Char)
    (htiles : ((layout data width height slots).flatMap Footprint.tilesOf).length ≤ 100)
    : ∃ state, afterSlots data width height fitter slots = .ok state := by
  rcases blank_holds harea hreadable fitter with ⟨pattern, hblank, hholds⟩
  unfold afterSlots
  rw [hblank, Outcome.bind_ok]
  apply fillSlots_exists hholds hslots htiles

theorem new_eq_ok {slots : Int} (hslots : slots ≤ 5) (harea : width * height ≤ 100) {fitter : Char}
    {pattern : BuildingPlacerPattern}
    : new data width height slots fitter = .ok pattern
        ↔
      ∃ visited, afterSlots data width height fitter slots.toNat = .ok (pattern, visited) := by
  rw [new_eq_afterSlots hslots harea, Outcome.bind_eq_ok]
  constructor
  . intro h
    rcases h with ⟨⟨pattern', visited⟩, hafter, heq⟩
    rw [Outcome.pure_eq_ok, Except.ok.injEq] at heq
    subst heq
    exact ⟨visited, hafter⟩
  . intro h
    rcases h with ⟨visited, hafter⟩
    exact ⟨(pattern, visited), hafter, rfl⟩

theorem new_layout {slots : Int} (hslots : slots ≤ 5) (harea : width * height ≤ 100)
    (hreadable : (width * height).toNat ≤ data.length) {fitter : Char}
    {pattern : BuildingPlacerPattern}
    (hnew : new data width height slots fitter = .ok pattern)
    : pattern.footprints.elements = layout data width height slots.toNat := by
  rcases (new_eq_ok hslots harea).mp hnew with ⟨visited, hafter⟩
  exact (afterSlots_holds harea hreadable hafter).footprints

theorem new_exists {slots : Int} (hslots : slots ≤ 5) (harea : width * height ≤ 100)
    (hreadable : (width * height).toNat ≤ data.length) (fitter : Char)
    (htiles : ((layout data width height slots.toNat).flatMap Footprint.tilesOf).length ≤ 100)
    : ∃ pattern, new data width height slots fitter = .ok pattern := by
  rcases afterSlots_exists (by omega) harea hreadable fitter htiles with ⟨⟨pattern, visited⟩, hafter⟩
  exact ⟨pattern, (new_eq_ok hslots harea).mpr ⟨visited, hafter⟩⟩

structure ValidLayout (data : List Char) (width height : Int)
    (layout : List (Point2DI × Footprint)) : Prop where
  onPattern : ∀ placed ∈ layout, ∀ t ∈ Footprint.tilesOf placed,
    t ∈ pixels width height ∧ data[(t.y * width + t.x).toNat]? = some 'b'
  disjoint : layout.Pairwise fun placed placed' =>
    (Footprint.tilesOf placed).Disjoint (Footprint.tilesOf placed')

def Separates (data : List Char) (width height slots : Int) : Prop :=
  slots ≤ 1 ∨
  match candidates data width height allFootprints with
  | [] => True
  | first :: others =>
    diagonal first.1 = true ∧
    match (first :: others).find? (fun placed => !diagonal placed.1) with
    | none => True
    | some second =>
      slots = 2 ∧ (Footprint.tilesOf first).Disjoint (Footprint.tilesOf second)

theorem candidates_eq (table : List (UnitTypeId × Footprint))
    : candidates data width height table
        =
      (table.filter fun entry => isBuildingType entry.1).flatMap fun entry =>
        ((pixels width height).filter (fits data width height entry.2)).map (·, entry.2) := by
  induction table with
  | nil => rfl
  | cons entry table ih =>
    rcases entry with ⟨type, footprint⟩
    unfold candidates
    cases htype : isBuildingType type with
    | false => simp [htype, ih]
    | true => simp [htype, ih]

theorem mem_candidates_iff {table : List (UnitTypeId × Footprint)} {placed : Point2DI × Footprint}
    : placed ∈ candidates data width height table
        ↔
      placed.1 ∈ pixels width height ∧ fits data width height placed.2 placed.1 = true ∧
        ∃ entry ∈ table, isBuildingType entry.1 = true ∧ entry.2 = placed.2 := by
  rw [candidates_eq]
  simp only [List.mem_flatMap, List.mem_map, List.mem_filter]
  constructor
  . intro h
    rcases h with ⟨entry, ⟨hentry, htype⟩, center, ⟨hcenter, hfits⟩, rfl⟩
    exact ⟨hcenter, hfits, entry, hentry, htype, rfl⟩
  . intro h
    rcases h with ⟨hcenter, hfits, entry, hentry, htype, heq⟩
    rw [← heq] at hfits
    exact ⟨entry, ⟨hentry, htype⟩, placed.1, ⟨hcenter, hfits⟩, by rw [heq]⟩

theorem center_mem_tilesOf {placed : Point2DI × Footprint}
    (h : placed ∈ candidates data width height allFootprints)
    : placed.1 ∈ Footprint.tilesOf placed := by
  rcases (mem_candidates_iff.mp h).2.2 with ⟨entry, hentry, -, heq⟩
  have hcenter := center_mem_deltas entry hentry
  rw [heq] at hcenter
  unfold Footprint.tilesOf Footprint.tilesAt
  rw [List.mem_map]
  exact ⟨⟨0, 0⟩, hcenter, by simp [Point2DI.add]⟩

theorem layout_onPattern {slots : Nat} {placed : Point2DI × Footprint}
    (h : placed ∈ layout data width height slots) {t : Point2DI} (ht : t ∈ Footprint.tilesOf placed)
    : t ∈ pixels width height ∧ data[(t.y * width + t.x).toNat]? = some 'b' := by
  have hfits := (mem_candidates_iff.mp (Greedy.mem_candidates h)).2.1
  have hbuildable := List.all_eq_true.mp hfits t ht
  simpa [buildable] using hbuildable

theorem not_disjoint_self {placed : Point2DI × Footprint}
    (h : placed ∈ candidates data width height allFootprints)
    : ¬ (Footprint.tilesOf placed).Disjoint (Footprint.tilesOf placed) := by
  intro hdisjoint
  apply hdisjoint (center_mem_tilesOf h) (center_mem_tilesOf h)

section

variable {first second : Point2DI × Footprint} {others : List (Point2DI × Footprint)}

theorem layout_of_nil (h : candidates data width height allFootprints = []) (slots : Nat)
    : layout data width height slots = [] := by
  apply Greedy.selection_of_stuck (m := 0) _ (Nat.zero_le slots)
  rw [h]
  rfl

theorem first_mem (h : candidates data width height allFootprints = first :: others)
    : first ∈ candidates data width height allFootprints := by
  rw [h]
  apply List.mem_cons_self

theorem layout_one (h : candidates data width height allFootprints = first :: others)
    : layout data width height 1 = [first] := by
  rw [layout, Greedy.selection_succ, h]
  apply Greedy.next_eq_append []
  simp [blocked]

theorem layout_succ_of_off_diagonal (slots : Nat)
    (h : candidates data width height allFootprints = first :: others)
    (hfirst : diagonal first.1 = false)
    : layout data width height (slots + 1) = layout data width height slots ++ [first] := by
  rw [layout, Greedy.selection_succ, h]
  apply Greedy.next_eq_append
  simp [blocked, hfirst]

theorem find?_of_crossed (h : first ∈ candidates data width height allFootprints)
    (hfirst : diagonal first.1 = true) {taken : List (Point2DI × Footprint)} (hmem : first ∈ taken)
    : (candidates data width height allFootprints).find? (fun placed => !blocked taken placed)
        =
      offDiagonal data width height := by
  have hcrossed : (taken.flatMap Footprint.tilesOf).any diagonal = true :=
    List.any_eq_true.mpr ⟨first.1, List.mem_flatMap.mpr ⟨first, hmem, center_mem_tilesOf h⟩, hfirst⟩
  simp [blocked, hcrossed, offDiagonal]

theorem layout_of_diagonal_only
    (h : candidates data width height allFootprints = first :: others)
    (hfirst : diagonal first.1 = true) (hsecond : offDiagonal data width height = none)
    {slots : Nat} (hslots : 1 ≤ slots) : layout data width height slots = [first] := by
  rw [← layout_one h]
  apply Greedy.selection_of_stuck (m := 1) _ hslots
  apply Greedy.next_eq_self
  rw [find?_of_crossed (first_mem h) hfirst, hsecond]
  have hone := layout_one h
  rw [layout] at hone
  rw [hone]
  apply List.mem_singleton_self first

theorem layout_succ_of_second (slots : Nat)
    (h : candidates data width height allFootprints = first :: others)
    (hfirst : diagonal first.1 = true)
    (hsecond : offDiagonal data width height = some second)
    (hmem : first ∈ layout data width height slots)
    : layout data width height (slots + 1) = layout data width height slots ++ [second] := by
  rw [layout, Greedy.selection_succ]
  apply Greedy.next_eq_append
  rw [find?_of_crossed (first_mem h) hfirst hmem, hsecond]

theorem find?_eq_offDiagonal (h : candidates data width height allFootprints = first :: others)
    : (first :: others).find? (fun placed => !diagonal placed.1) = offDiagonal data width height := by
  rw [offDiagonal, h]

theorem layout_of_offDiagonal (h : candidates data width height allFootprints = first :: others)
    (hsecond : offDiagonal data width height = some second) (slots : Nat)
    : layout data width height (slots + 1) = first :: List.replicate slots second := by
  induction slots with
  | zero => apply layout_one h
  | succ slots ih =>
    rw [List.replicate_succ', ← List.cons_append, ← ih]
    cases hfirst : diagonal first.1 with
    | true => apply layout_succ_of_second (slots + 1) h hfirst hsecond (by simp [ih])
    | false =>
      rw [← find?_eq_offDiagonal h, List.find?_cons_of_pos (by simp [hfirst]),
        Option.some.injEq] at hsecond
      rw [← hsecond]
      apply layout_succ_of_off_diagonal (slots + 1) h hfirst

end

theorem separates_of_valid {slots : Int}
    (h : ValidLayout data width height (layout data width height slots.toNat))
    : Separates data width height slots := by
  unfold Separates
  by_cases hslots : slots ≤ 1
  . exact .inl hslots
  refine .inr ?_
  split
  . trivial
  . next first others hcandidates =>
    have htwo : (layout data width height 2).Pairwise _ :=
      h.disjoint.sublist (Greedy.selection_prefix (by omega)).sublist
    cases hfirst : diagonal first.1 with
    | false =>
      rw [layout_succ_of_off_diagonal 1 hcandidates hfirst, layout_one hcandidates] at htwo
      have hself := List.rel_of_pairwise_cons htwo (List.mem_singleton_self first)
      exact absurd hself (not_disjoint_self (first_mem hcandidates))
    | true =>
      refine ⟨rfl, ?_⟩
      split
      . trivial
      . next second hsecond =>
        rw [find?_eq_offDiagonal hcandidates] at hsecond
        rw [layout_of_offDiagonal hcandidates hsecond 1] at htwo
        constructor
        . by_contra hne
          have hthree : (layout data width height 3).Pairwise _ :=
            h.disjoint.sublist (Greedy.selection_prefix (by omega)).sublist
          rw [layout_of_offDiagonal hcandidates hsecond 2] at hthree
          have hself := List.rel_of_pairwise_cons (List.Pairwise.of_cons hthree)
            (List.mem_singleton_self second)
          exact absurd hself (not_disjoint_self (List.mem_of_find?_eq_some hsecond))
        . apply List.rel_of_pairwise_cons htwo (List.mem_singleton_self second)

theorem layout_of_separates {slots : Int} (h : Separates data width height slots)
    : (layout data width height slots.toNat).length ≤ 2 ∧
      (layout data width height slots.toNat).Pairwise fun placed placed' =>
        (Footprint.tilesOf placed).Disjoint (Footprint.tilesOf placed') := by
  have hlength : (layout data width height slots.toNat).length ≤ slots.toNat :=
    length_layout_le slots.toNat
  by_cases hslots : slots ≤ 1
  . refine ⟨by omega, ?_⟩
    match hlayout : layout data width height slots.toNat with
    | [] => exact .nil
    | [placed] => apply List.pairwise_singleton _ _
    | _ :: _ :: _ =>
      rw [hlayout] at hlength
      simp only [List.length_cons] at hlength
      omega
  have hrest := h.resolve_left hslots
  split at hrest
  . next hcandidates =>
    rw [layout_of_nil hcandidates]
    exact ⟨by simp, .nil⟩
  . next first others hcandidates =>
    rcases hrest with ⟨hfirst, hsecond⟩
    split at hsecond
    . next hnone =>
      rw [find?_eq_offDiagonal hcandidates] at hnone
      rw [layout_of_diagonal_only hcandidates hfirst hnone (by omega)]
      exact ⟨by simp, List.pairwise_singleton _ _⟩
    . next second hsome =>
      rcases hsecond with ⟨rfl, hdisjoint⟩
      rw [find?_eq_offDiagonal hcandidates] at hsome
      change (layout data width height 2).length ≤ 2 ∧ (layout data width height 2).Pairwise _
      rw [layout_of_offDiagonal hcandidates hsome 1]
      exact ⟨by simp, by simpa using hdisjoint⟩

theorem length_tilesOf_le (placed : Point2DI × Footprint)
    : (Footprint.tilesOf placed).length ≤ 25 := by
  unfold Footprint.tilesOf Footprint.tilesAt
  rw [List.length_map]
  exact placed.2.length_deltas_le

theorem length_tiles_le (taken : List (Point2DI × Footprint))
    : (taken.flatMap Footprint.tilesOf).length ≤ 25 * taken.length := by
  induction taken with
  | nil => simp
  | cons placed taken ih =>
    have hle := length_tilesOf_le placed
    rw [List.flatMap_cons, List.length_append, List.length_cons]
    omega

theorem new_valid_iff {slots : Int} (hslots : slots ≤ 5) (harea : width * height ≤ 100)
    (hdata : data.length = (width * height).toNat) (fitter : Char)
    : (∃ pattern, new data width height slots fitter = .ok pattern ∧
          ValidLayout data width height pattern.footprints.elements)
        ↔
      Separates data width height slots := by
  constructor
  . intro h
    rcases h with ⟨pattern, hnew, hvalid⟩
    rw [new_layout hslots harea (by omega) hnew] at hvalid
    apply separates_of_valid hvalid
  . intro h
    rcases layout_of_separates h with ⟨hlength, hdisjoint⟩
    have htiles := length_tiles_le (layout data width height slots.toNat)
    have hexists : ∃ pattern, new data width height slots fitter = .ok pattern :=
      new_exists hslots harea (by omega) fitter (by omega)
    rcases hexists with ⟨pattern, hnew⟩
    refine ⟨pattern, hnew, ?_⟩
    rw [new_layout hslots harea (by omega) hnew]
    exact ⟨fun placed hplaced t => layout_onPattern hplaced, hdisjoint⟩

theorem new_valid_iff_pylon
    : (∃ pattern, new "bbbb".toList 2 2 2 'x' = .ok pattern ∧
          ValidLayout "bbbb".toList 2 2 pattern.footprints.elements)
        ↔
      Separates "bbbb".toList 2 2 2 := by
  apply new_valid_iff (by decide) (by decide) (by decide) 'x'

theorem overlapping_pylons
    : ∃ pattern, new "bbbbbb".toList 3 2 2 'x' = .ok pattern ∧
        pattern.footprints.elements.map Footprint.tilesOf
          = [[⟨0, 0⟩, ⟨1, 0⟩, ⟨0, 1⟩, ⟨1, 1⟩], [⟨1, 0⟩, ⟨2, 0⟩, ⟨1, 1⟩, ⟨2, 1⟩]] ∧
        ¬ ValidLayout "bbbbbb".toList 3 2 pattern.footprints.elements := by
  have htiles : (new "bbbbbb".toList 3 2 2 'x').toOption.map
      (fun pattern => pattern.footprints.elements.map Footprint.tilesOf)
        = some [[⟨0, 0⟩, ⟨1, 0⟩, ⟨0, 1⟩, ⟨1, 1⟩], [⟨1, 0⟩, ⟨2, 0⟩, ⟨1, 1⟩, ⟨2, 1⟩]] := by
    decide +kernel
  cases hnew : new "bbbbbb".toList 3 2 2 'x' with
  | error fault =>
    rw [hnew] at htiles
    cases htiles
  | ok pattern =>
    simp only [hnew, Except.toOption, Option.map_some, Option.some.injEq] at htiles
    refine ⟨pattern, rfl, htiles, ?_⟩
    intro h
    have hdisjoint := List.pairwise_map.mpr h.disjoint
    rw [htiles] at hdisjoint
    have hboth := List.rel_of_pairwise_cons hdisjoint (List.mem_singleton_self _)
    apply hboth (a := ⟨1, 1⟩) (by decide) (by decide)

end BuildingPlacerPattern

end Sc2.Utils
