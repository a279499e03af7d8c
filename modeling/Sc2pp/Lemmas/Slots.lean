import Sc2pp.Lemmas.BuildingPlacer

/-!
This module contains what the placer of buildings does slot by slot: when all slots go through, and
whether every slot receives the first footprint of the table for which there is still room.
-/

namespace Sc2.Utils.BuildingPlacerPattern

variable {data : List Char} {width height : Int}

theorem candidates_append (table table' : List (UnitTypeId × Footprint))
    : candidates data width height (table ++ table')
        =
      candidates data width height table ++ candidates data width height table' := by
  simp only [candidates_eq, List.filter_append, List.flatMap_append]

-- A building with the first footprint stands in the table before all entries with the second one.
def Earlier (footprint footprint' : Footprint) : Prop :=
  ∃ before after, allFootprints = before ++ after ∧
    (∃ entry ∈ before, isBuildingType entry.1 = true ∧ entry.2 = footprint) ∧
    ∀ entry ∈ before, entry.2 ≠ footprint'

theorem eq_false_of_earlier {p : Point2DI × Footprint → Bool} {found : Point2DI × Footprint}
    (hfind : (candidates data width height allFootprints).find? p = some found)
    {footprint : Footprint} (hearlier : Earlier footprint found.2) {center : Point2DI}
    (hcenter : center ∈ pixels width height)
    (hfits : fits data width height footprint center = true) : p (center, footprint) = false := by
  rcases hearlier with ⟨before, after, htable, hentry, hother⟩
  rw [htable, candidates_append, List.find?_append] at hfind
  cases hbefore : (candidates data width height before).find? p with
  | none =>
    have hplaced := List.find?_eq_none.mp hbefore (center, footprint)
      (mem_candidates_iff.mpr ⟨hcenter, hfits, hentry⟩)
    simpa using hplaced
  | some found' =>
    rw [hbefore, Option.some_or, Option.some.injEq] at hfind
    subst hfind
    rcases (mem_candidates_iff.mp (List.mem_of_find?_eq_some hbefore)).2.2
      with ⟨entry, hmem, -, heq⟩
    exact absurd heq (hother entry hmem)

def NexusOffDiagonal (data : List Char) (width height : Int) : Prop :=
  ∃ center ∈ pixels width height, center.x ≠ center.y ∧
    fits data width height (getFootprint .protossNexus) center = true

theorem allFootprints_eq
    : allFootprints = [(.protossNexus, getFootprint .protossNexus)] ++ allFootprints.tail := by
  rfl

theorem nexusOffDiagonal_iff
    : NexusOffDiagonal data width height
        ↔
      ∃ second, offDiagonal data width height = some second ∧
        second.2 = getFootprint .protossNexus := by
  constructor
  . intro h
    rcases h with ⟨center, hcenter, hdiagonal, hfits⟩
    have hmem : (center, getFootprint .protossNexus) ∈ candidates data width height allFootprints :=
      mem_candidates_iff.mpr ⟨hcenter, hfits, _, List.mem_cons_self, rfl, rfl⟩
    cases hsecond : offDiagonal data width height with
    | none =>
      have hplaced := List.find?_eq_none.mp hsecond _ hmem
      simp [diagonal, hdiagonal] at hplaced
    | some second =>
      refine ⟨second, rfl, ?_⟩
      by_contra hne
      have hearlier : Earlier (getFootprint .protossNexus) second.2 := by
        refine ⟨_, _, allFootprints_eq, ⟨_, List.mem_singleton_self _, rfl, rfl⟩, ?_⟩
        intro entry hentry
        rw [List.mem_singleton.mp hentry]
        apply Ne.symm hne
      have hplaced := eq_false_of_earlier hsecond hearlier hcenter hfits
      simp [diagonal, hdiagonal] at hplaced
  . intro h
    rcases h with ⟨second, hsecond, heq⟩
    have hdiagonal := List.find?_some hsecond
    rcases mem_candidates_iff.mp (List.mem_of_find?_eq_some hsecond) with ⟨hcenter, hfits, -⟩
    rw [heq] at hfits
    exact ⟨second.1, hcenter, by simpa [diagonal] using hdiagonal, hfits⟩

theorem length_tilesOf (placed : Point2DI × Footprint)
    : (Footprint.tilesOf placed).length = placed.2.deltas.length := by
  unfold Footprint.tilesOf Footprint.tilesAt
  apply List.length_map

theorem length_deltas_nexus : (getFootprint .protossNexus).deltas.length = 25 := by
  decide +kernel

theorem length_deltas_others : ∀ entry ∈ allFootprints.tail, entry.2.deltas.length ≤ 9 := by
  decide +kernel

theorem length_tilesOf_le_nine {placed : Point2DI × Footprint}
    (h : placed ∈ candidates data width height allFootprints)
    (hne : placed.2 ≠ getFootprint .protossNexus) : (Footprint.tilesOf placed).length ≤ 9 := by
  rcases (mem_candidates_iff.mp h).2.2 with ⟨entry, hentry, -, heq⟩
  rw [allFootprints_eq, List.mem_append, List.mem_singleton] at hentry
  rw [length_tilesOf, ← heq]
  rcases hentry with rfl | hentry
  . exact absurd heq.symm hne
  . apply length_deltas_others entry hentry

theorem tiles_of_offDiagonal {second : Point2DI × Footprint}
    (h : offDiagonal data width height = some second)
    : ((layout data width height 5).flatMap Footprint.tilesOf).length ≤ 100
        ↔
      second.2 ≠ getFootprint .protossNexus := by
  have hsecond : second ∈ candidates data width height allFootprints :=
    List.mem_of_find?_eq_some h
  cases hcandidates : candidates data width height allFootprints with
  | nil =>
    rw [hcandidates] at hsecond
    cases hsecond
  | cons first others =>
    have hcenter := List.length_pos_of_mem (center_mem_tilesOf (first_mem hcandidates))
    have hfirst := length_tilesOf_le first
    have htiles : ((layout data width height 5).flatMap Footprint.tilesOf).length
        = (Footprint.tilesOf first).length + 4 * (Footprint.tilesOf second).length := by
      rw [layout_of_offDiagonal hcandidates h 4]
      simp only [List.replicate, List.flatMap_cons, List.flatMap_nil, List.length_append,
        List.length_nil]
      omega
    rw [htiles]
    constructor
    . intro hle heq
      rw [length_tilesOf second, heq, length_deltas_nexus] at hle
      omega
    . intro hne
      have hnine := length_tilesOf_le_nine hsecond hne
      omega

theorem tiles_of_diagonal_only (h : offDiagonal data width height = none) (slots : Nat)
    : ((layout data width height slots).flatMap Footprint.tilesOf).length ≤ 100 := by
  have htiles := length_tiles_le (layout data width height slots)
  suffices hlength : (layout data width height slots).length ≤ 1 by omega
  cases hcandidates : candidates data width height allFootprints with
  | nil =>
    rw [layout_of_nil hcandidates]
    apply Nat.zero_le
  | cons first others =>
    have hfirst := List.find?_eq_none.mp h first (first_mem hcandidates)
    cases slots with
    | zero => apply Nat.zero_le
    | succ slots =>
      rw [layout_of_diagonal_only hcandidates (by simpa using hfirst) h (by omega)]
      apply Nat.le_refl

theorem tiles_le_iff {slots : Nat} (hslots : slots ≤ 5)
    : ((layout data width height slots).flatMap Footprint.tilesOf).length ≤ 100
        ↔
      ¬ (slots = 5 ∧ NexusOffDiagonal data width height) := by
  by_cases hfive : slots = 5
  . subst hfive
    rw [nexusOffDiagonal_iff]
    cases hsecond : offDiagonal data width height with
    | none =>
      rw [iff_true_left (tiles_of_diagonal_only hsecond 5)]
      simp
    | some second =>
      rw [tiles_of_offDiagonal hsecond]
      simp
  . have htiles := length_tiles_le (layout data width height slots)
    have hlength : (layout data width height slots).length ≤ slots := length_layout_le slots
    simp only [hfive, false_and, not_false_eq_true, iff_true]
    omega

theorem new_exists_iff {slots : Int} (hslots : slots ≤ 5) (harea : width * height ≤ 100)
    (hdata : data.length = (width * height).toNat) (fitter : Char)
    : (∃ pattern, new data width height slots fitter = .ok pattern)
        ↔
      ¬ (slots = 5 ∧ NexusOffDiagonal data width height) := by
  have hfive : slots = 5 ↔ slots.toNat = 5 := by omega
  rw [hfive, ← tiles_le_iff (by omega)]
  constructor
  . intro h
    rcases h with ⟨pattern, hnew⟩
    rcases (new_eq_ok hslots harea).mp hnew with ⟨visited, hafter⟩
    have hvisited := (afterSlots_holds harea (by omega) hafter).visited
    rw [← hvisited, FixedVector.length_elements]
    exact visited.size_le
  . intro htiles
    apply new_exists hslots harea (by omega) fitter htiles

theorem new_exists_four_nexuses
    : ∃ pattern, new (List.replicate 30 'b') 6 5 4 'x' = .ok pattern := by
  rw [new_exists_iff (by decide) (by decide) (by decide)]
  intro h
  exact absurd h.1 (by decide)

theorem new_throws_five_nexuses
    : new (List.replicate 30 'b') 6 5 5 'x'
        = .error (.exception "FixedVector::push_back out of range") := by
  have hfault : (match new (List.replicate 30 'b') 6 5 5 'x' with
      | .ok _ => none
      | .error fault => some fault) = some (.exception "FixedVector::push_back out of range") := by
    decide +kernel
  cases hnew : new (List.replicate 30 'b') 6 5 5 'x' with
  | ok pattern =>
    rw [hnew] at hfault
    cases hfault
  | error fault =>
    rw [hnew] at hfault
    cases hfault
    rfl

def FreeAt (data : List Char) (width height : Int) (taken : List (Point2DI × Footprint))
    (footprint : Footprint) (center : Point2DI) : Prop :=
  fits data width height footprint center = true ∧
    (footprint.tilesAt center).Disjoint (taken.flatMap Footprint.tilesOf)

-- What a slot must do to the pairs stored so far.
structure SlotComplete (data : List Char) (width height : Int)
    (before after : List (Point2DI × Footprint)) : Prop where
  received : ∀ placed, after = before ++ [placed] →
    ∀ footprint, Earlier footprint placed.2 →
      ∀ center, ¬ FreeAt data width height before footprint center
  nothing : after = before →
    ∀ entry ∈ allFootprints, isBuildingType entry.1 = true →
      ∀ center, ¬ FreeAt data width height before entry.2 center

def GreedyComplete (data : List Char) (width height slots : Int) (fitter : Char) : Prop :=
  ∀ k : Nat, k < slots → ∀ before after,
    afterSlots data width height fitter k = .ok before →
    afterSlots data width height fitter (k + 1) = .ok after →
      SlotComplete data width height before.1.footprints.elements after.1.footprints.elements

-- No building that would have to be preferred for the second slot has room beside the first one.
def NoRoomBesideFirst (data : List Char) (width height : Int) : Prop :=
  ∀ first, (candidates data width height allFootprints).head? = some first →
    diagonal first.1 = true →
      ∀ placed ∈ candidates data width height allFootprints,
        (∀ second, offDiagonal data width height = some second → Earlier placed.2 second.2) →
          ¬ (Footprint.tilesOf placed).Disjoint (Footprint.tilesOf first)

theorem mem_candidates_of_fits {entry : UnitTypeId × Footprint} (hentry : entry ∈ allFootprints)
    (htype : isBuildingType entry.1 = true) {center : Point2DI}
    (hfits : fits data width height entry.2 center = true)
    : (center, entry.2) ∈ candidates data width height allFootprints := by
  have htile : center ∈ entry.2.tilesAt center := by
    unfold Footprint.tilesAt
    rw [List.mem_map]
    exact ⟨⟨0, 0⟩, center_mem_deltas entry hentry, by simp [Point2DI.add]⟩
  have hbuildable := List.all_eq_true.mp hfits center htile
  rw [mem_candidates_iff]
  refine ⟨?_, hfits, entry, hentry, htype, rfl⟩
  unfold buildable at hbuildable
  simp only [Bool.and_eq_true, decide_eq_true_eq] at hbuildable
  exact hbuildable.1

theorem mem_candidates_of_earlier {footprint footprint' : Footprint}
    (hearlier : Earlier footprint footprint') {center : Point2DI}
    (hfits : fits data width height footprint center = true)
    : (center, footprint) ∈ candidates data width height allFootprints := by
  rcases hearlier with ⟨before, after, htable, ⟨entry, hentry, htype, rfl⟩, -⟩
  have hmem : entry ∈ allFootprints := by
    rw [htable]
    apply List.mem_append_left _ hentry
  apply mem_candidates_of_fits hmem htype hfits

theorem slotComplete_self {before : List (Point2DI × Footprint)}
    (h : ∀ placed ∈ candidates data width height allFootprints,
      ¬ FreeAt data width height before placed.2 placed.1)
    : SlotComplete data width height before before where
  received := by
    intro placed hafter
    simp at hafter
  nothing := by
    intro _ entry hentry htype center hfree
    apply h _ (mem_candidates_of_fits hentry htype hfree.1) hfree

theorem slotComplete_append {before : List (Point2DI × Footprint)} {placed : Point2DI × Footprint}
    (h : ∀ footprint, Earlier footprint placed.2 →
      ∀ center, ¬ FreeAt data width height before footprint center)
    : SlotComplete data width height before (before ++ [placed]) where
  received := by
    intro placed' hafter
    rw [List.append_cancel_left_eq, List.singleton_inj] at hafter
    rwa [← hafter]
  nothing := by
    intro hafter
    simp at hafter

theorem free_beside {first : Point2DI × Footprint} {before : List (Point2DI × Footprint)}
    (hfirst : first ∈ before) {footprint : Footprint} {center : Point2DI}
    (h : FreeAt data width height before footprint center)
    : (footprint.tilesAt center).Disjoint (Footprint.tilesOf first) := by
  intro t ht ht'
  apply h.2 ht (List.mem_flatMap.mpr ⟨first, hfirst, ht'⟩)

section

variable {first : Point2DI × Footprint} {others : List (Point2DI × Footprint)}

theorem slotComplete_of_nil (h : candidates data width height allFootprints = []) (k : Nat)
    : SlotComplete data width height (layout data width height k)
        (layout data width height (k + 1)) := by
  rw [layout_of_nil h, layout_of_nil h]
  apply slotComplete_self
  rw [h]
  intro placed hplaced
  cases hplaced

theorem slotComplete_append_first
    (h : candidates data width height allFootprints = first :: others)
    (before : List (Point2DI × Footprint))
    : SlotComplete data width height before (before ++ [first]) := by
  apply slotComplete_append
  intro footprint hearlier center hfree
  have hfind : (candidates data width height allFootprints).find? (fun _ => true) = some first := by
    rw [h]
    rfl
  have hmem := mem_candidates_of_earlier hearlier hfree.1
  have hfalse := eq_false_of_earlier hfind hearlier (mem_candidates_iff.mp hmem).1 hfree.1
  cases hfalse

theorem slotComplete_zero
    : SlotComplete data width height (layout data width height 0)
        (layout data width height 1) := by
  cases h : candidates data width height allFootprints with
  | nil => apply slotComplete_of_nil h 0
  | cons first others =>
    rw [layout_one h]
    apply slotComplete_append_first h []

theorem mem_layout_succ (h : candidates data width height allFootprints = first :: others) (k : Nat)
    : first ∈ layout data width height (k + 1) := by
  have hone : layout data width height 1 <+: layout data width height (k + 1) :=
    Greedy.selection_prefix (by omega)
  rw [layout_one h] at hone
  apply hone.subset (List.mem_singleton_self first)

theorem slotComplete_succ (h : NoRoomBesideFirst data width height) (k : Nat)
    : SlotComplete data width height (layout data width height (k + 1))
        (layout data width height (k + 2)) := by
  cases hcandidates : candidates data width height allFootprints with
  | nil => apply slotComplete_of_nil hcandidates (k + 1)
  | cons first others =>
    have hmem := mem_layout_succ hcandidates k
    cases hfirst : diagonal first.1 with
    | false =>
      rw [layout_succ_of_off_diagonal (k + 1) hcandidates hfirst]
      apply slotComplete_append_first hcandidates
    | true =>
      have hroom := h first (by rw [hcandidates]; rfl) hfirst
      cases hsecond : offDiagonal data width height with
      | none =>
        rw [layout_of_diagonal_only hcandidates hfirst hsecond (by omega)] at hmem ⊢
        rw [layout_of_diagonal_only hcandidates hfirst hsecond (by omega)]
        apply slotComplete_self
        intro placed hplaced hfree
        apply hroom placed hplaced (by simp [hsecond]) (free_beside hmem hfree)
      | some second =>
        rw [layout_succ_of_second (k + 1) hcandidates hfirst hsecond hmem]
        apply slotComplete_append
        intro footprint hearlier center hfree
        have hplaced := mem_candidates_of_earlier hearlier hfree.1
        apply hroom (center, footprint) hplaced (by simp [hsecond, hearlier])
          (free_beside hmem hfree)

end

theorem noRoomBesideFirst_of_complete
    (h : SlotComplete data width height (layout data width height 1) (layout data width height 2))
    : NoRoomBesideFirst data width height := by
  intro first hhead hfirst placed hplaced hearlier hdisjoint
  rcases List.head?_eq_some_iff.mp hhead with ⟨others, hcandidates⟩
  have hfree : FreeAt data width height [first] placed.2 placed.1 := by
    refine ⟨(mem_candidates_iff.mp hplaced).2.1, ?_⟩
    simpa [Footprint.tilesOf] using hdisjoint
  have hone := layout_one hcandidates
  cases hsecond : offDiagonal data width height with
  | none =>
    rw [hone, layout_of_diagonal_only hcandidates hfirst hsecond (by omega)] at h
    rcases (mem_candidates_iff.mp hplaced).2.2 with ⟨entry, hentry, htype, heq⟩
    rw [← heq] at hfree
    apply h.nothing rfl entry hentry htype placed.1 hfree
  | some second =>
    have hlayout := layout_of_offDiagonal hcandidates hsecond 1
    rw [hone, hlayout] at h
    apply h.received second rfl placed.2 (hearlier second hsecond) placed.1 hfree

theorem slotComplete_of_greedyComplete {slots : Int} (harea : width * height ≤ 100)
    (hdata : data.length = (width * height).toNat) {fitter : Char}
    (h : GreedyComplete data width height slots fitter) {k : Nat} (hk : k < slots) (hlt : k < 4)
    : SlotComplete data width height (layout data width height k)
        (layout data width height (k + 1)) := by
  have hexists : ∀ n ≤ 4, ∃ state, afterSlots data width height fitter n = .ok state := by
    intro n hn
    have htiles := length_tiles_le (layout data width height n)
    have hlength : (layout data width height n).length ≤ n := length_layout_le n
    apply afterSlots_exists (by omega) harea (by omega) fitter (by omega)
  rcases hexists k (by omega) with ⟨before, hbefore⟩
  rcases hexists (k + 1) (by omega) with ⟨after, hafter⟩
  have hcomplete := h k hk before after hbefore hafter
  rwa [(afterSlots_holds harea (by omega) hbefore).footprints,
    (afterSlots_holds harea (by omega) hafter).footprints] at hcomplete

theorem greedyComplete_iff {slots : Int} (hslots : slots ≤ 5) (harea : width * height ≤ 100)
    (hdata : data.length = (width * height).toNat) (fitter : Char)
    : GreedyComplete data width height slots fitter
        ↔
      slots ≤ 1 ∨ NoRoomBesideFirst data width height := by
  constructor
  . intro h
    by_cases hone : slots ≤ 1
    . exact .inl hone
    . right
      apply noRoomBesideFirst_of_complete
      apply slotComplete_of_greedyComplete harea hdata h (by omega) (by decide)
  . intro h k hk before after hbefore hafter
    rw [(afterSlots_holds harea (by omega) hbefore).footprints,
      (afterSlots_holds harea (by omega) hafter).footprints]
    cases k with
    | zero => apply slotComplete_zero
    | succ k =>
      have hroom := h.resolve_left (by omega)
      apply slotComplete_succ hroom k

theorem greedyComplete_iff_off_diagonal : GreedyComplete " bb bb".toList 3 2 3 'x' := by
  have hdiagonal : ((candidates " bb bb".toList 3 2 allFootprints).head?.map
      fun first => diagonal first.1) = some false := by
    decide +kernel
  rw [greedyComplete_iff (by decide) (by decide) (by decide)]
  right
  intro first hfirst hdiag
  rw [hfirst, Option.map_some, hdiag] at hdiagonal
  cases hdiagonal

theorem pylon_overlooked : ¬ GreedyComplete "bb  bb    bb  bb".toList 4 4 2 'x' := by
  intro h
  have hpylons : (candidates "bb  bb    bb  bb".toList 4 4 allFootprints).map
        (fun placed => (placed.1, Footprint.tilesOf placed))
      = [(⟨1, 1⟩, [⟨0, 0⟩, ⟨1, 0⟩, ⟨0, 1⟩, ⟨1, 1⟩]),
        (⟨3, 3⟩, [⟨2, 2⟩, ⟨3, 2⟩, ⟨2, 3⟩, ⟨3, 3⟩])] := by
    decide +kernel
  have hnone : offDiagonal "bb  bb    bb  bb".toList 4 4 = none := by
    rw [offDiagonal, ← Option.isNone_iff_eq_none]
    decide +kernel
  have hroom := noRoomBesideFirst_of_complete
    (slotComplete_of_greedyComplete (by decide) (by decide) h (k := 1) (by decide) (by decide))
  rcases List.map_eq_cons_iff.mp hpylons with ⟨first, others, hcandidates, hfirst, hothers⟩
  rcases List.map_eq_cons_iff.mp hothers with ⟨second, _, rfl, hsecond, -⟩
  rw [Prod.mk.injEq] at hfirst hsecond
  have hdisjoint : (Footprint.tilesOf second).Disjoint (Footprint.tilesOf first) := by
    rw [hfirst.2, hsecond.2, List.disjoint_left]
    decide
  apply hroom first (by rw [hcandidates]; rfl) (by rw [hfirst.1]; rfl) second
    (by rw [hcandidates]; simp) _ hdisjoint
  intro second' hsecond'
  rw [hnone] at hsecond'
  cases hsecond'

end Sc2.Utils.BuildingPlacerPattern
