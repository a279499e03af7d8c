import Sc2pp.Lemmas.Grid
import Sc2pp.Impl.Footprints

/-!
This module contains what a vector of fixed capacity holds after elements were pushed back, which
tiles the footprint of a picture has, and the facts about the table of footprints.
-/

namespace Sc2.Utils

namespace FixedVector

variable {T : Type} {maxSize : Nat}

def empty [Inhabited T] : FixedVector T maxSize :=
  new 0 (Nat.zero_le maxSize)

theorem length_elements (v : FixedVector T maxSize) : v.elements.length = v.size := by
  have hlen := v.length_data
  have hsize := v.size_le
  simp only [elements, List.length_take]
  omega

theorem elements_fill {v : FixedVector T maxSize} {xs : List T} (h : xs.length ≤ maxSize)
    (hsize : v.size = xs.length) : (v.fill xs h).elements = xs := by
  simp only [elements, fill, hsize]
  apply List.take_left

theorem elements_pushBack {v v' : FixedVector T maxSize} {val : T}
    (h : v.pushBack val = .ok v') : v'.elements = v.elements ++ [val] := by
  unfold pushBack at h
  split at h
  . cases h
  . next hsize =>
    simp only [Outcome.pure_eq_ok, Except.ok.injEq] at h
    subst h
    have hlen := v.length_data
    simp only [elements]
    rw [List.take_add_one, List.take_set_of_le (Nat.le_refl _), List.getElem?_set_self (by omega)]
    rfl

theorem pushBack_exists {v : FixedVector T maxSize} (h : v.elements.length < maxSize) (val : T)
    : ∃ v', v.pushBack val = .ok v' := by
  rw [length_elements] at h
  unfold pushBack
  rw [dif_neg (by omega)]
  exact ⟨_, rfl⟩

theorem elements_pushAll {S : Type} {f : S → T} {xs : List S} {v v' : FixedVector T maxSize}
    (h : xs.foldlM (fun v x => v.pushBack (f x)) v = .ok v')
    : v'.elements = v.elements ++ xs.map f := by
  induction xs generalizing v with
  | nil =>
    simp only [List.foldlM_nil, Outcome.pure_eq_ok, Except.ok.injEq] at h
    simp [h]
  | cons x xs ih =>
    rw [List.foldlM_cons, Outcome.bind_eq_ok] at h
    rcases h with ⟨v₁, hpush, hrest⟩
    rw [ih hrest, elements_pushBack hpush, List.append_assoc, List.map_cons, List.singleton_append]

theorem pushAll_exists {S : Type} {f : S → T} {xs : List S} {v : FixedVector T maxSize}
    (h : v.elements.length + xs.length ≤ maxSize)
    : ∃ v', xs.foldlM (fun v x => v.pushBack (f x)) v = .ok v' := by
  induction xs generalizing v with
  | nil => exact ⟨v, rfl⟩
  | cons x xs ih =>
    rw [List.length_cons] at h
    rcases pushBack_exists (show v.elements.length < maxSize by omega) (f x) with ⟨v₁, hpush⟩
    rcases ih (v := v₁) (by simp [elements_pushBack hpush]; omega) with ⟨v', hrest⟩
    exact ⟨v', by rw [List.foldlM_cons, hpush, Outcome.bind_ok, hrest]⟩

theorem iterate_eq (v : FixedVector T maxSize) : v.iterate = .ok v.elements := by
  unfold iterate
  rw [Outcome.mapM_eq_ok, List.forall₂_iff_get]
  refine ⟨by simp [length_elements], ?_⟩
  intro i hi helements
  rw [getIndex, Outcome.elementAt_eq_ok]
  simp [elements]

-- Only whether the points are on the diagonal decides whether they count as equal.
theorem count_eq (v : FixedVector Point2DI maxSize) (p : Point2DI)
    : v.count Point2DI.eq p = (p.x == p.y && v.elements.any fun q => q.x == q.y) := by
  unfold count
  induction v.elements with
  | nil => simp
  | cons q qs ih =>
    rw [List.any_cons, List.any_cons, ih, Bool.and_or_distrib_left]
    rfl

def Recognised (pushed : List Point2DI) (p : Point2DI) : Prop :=
  if p.x = p.y then
    p ∈ pushed ∨ ∀ q ∈ pushed, q.x ≠ q.y
  else
    p ∉ pushed

theorem recognised_iff {pushed : List Point2DI} {p : Point2DI}
    : (p.x = p.y ∧ (∃ q ∈ pushed, q.x = q.y) ↔ p ∈ pushed) ↔ Recognised pushed p := by
  unfold Recognised
  split
  . next hp =>
    constructor
    . intro h
      by_cases hmem : p ∈ pushed
      . exact .inl hmem
      . refine .inr ?_
        intro q hq hdiagonal
        exact hmem (h.mp ⟨hp, q, hq, hdiagonal⟩)
    . intro h
      constructor
      . intro hcounted
        rcases hcounted.2 with ⟨q, hq, hdiagonal⟩
        cases h with
        | inl hmem => exact hmem
        | inr hnone => exact absurd hdiagonal (hnone q hq)
      . intro hmem
        exact ⟨hp, p, hmem, hp⟩
  . next hp =>
    constructor
    . intro h hmem
      exact hp (h.mpr hmem).1
    . intro h
      constructor
      . intro hcounted
        exact absurd hcounted.1 hp
      . intro hmem
        exact absurd hmem h

theorem exists_coordinates_iff {pushed : List Point2DI} {p : Point2DI}
    : (∃ q ∈ pushed, q.x = p.x ∧ q.y = p.y) ↔ p ∈ pushed := by
  constructor
  . intro h
    rcases h with ⟨q, hq, hx, hy⟩
    cases p
    cases q
    simp only at hx hy
    subst hx
    subst hy
    exact hq
  . intro h
    exact ⟨p, h, rfl, rfl⟩

theorem count_pushed_iff {pushed : List Point2DI} (hcapacity : pushed.length ≤ maxSize)
    (p : Point2DI)
    : ∃ v, pushed.foldlM pushBack (empty : FixedVector Point2DI maxSize) = .ok v ∧
        ((v.count Point2DI.eq p = true ↔ ∃ q ∈ pushed, q.x = p.x ∧ q.y = p.y)
          ↔
        Recognised pushed p) := by
  have hroom : (empty : FixedVector Point2DI maxSize).elements.length + pushed.length ≤ maxSize := by
    rw [length_elements]
    simpa [empty, new] using hcapacity
  rcases pushAll_exists (f := id) hroom with ⟨v, hpush⟩
  refine ⟨v, hpush, ?_⟩
  have helements : v.elements = pushed := by
    rw [elements_pushAll hpush, List.map_id]
    rfl
  rw [count_eq, helements, exists_coordinates_iff, ← recognised_iff]
  simp

theorem count_pushed_iff_corner
    : ∃ v, [⟨1, 1⟩, ⟨4, 2⟩].foldlM pushBack (empty : FixedVector Point2DI 2) = .ok v ∧
        ((v.count Point2DI.eq ⟨1, 1⟩ = true
            ↔
          ∃ q ∈ [(⟨1, 1⟩ : Point2DI), ⟨4, 2⟩], q.x = 1 ∧ q.y = 1)
          ↔
        Recognised [⟨1, 1⟩, ⟨4, 2⟩] ⟨1, 1⟩) := by
  apply count_pushed_iff (by decide) ⟨1, 1⟩

theorem pushed_not_counted
    : ¬ ∀ (maxSize : Nat) (pushed : List Point2DI) (p : Point2DI) (v : FixedVector Point2DI maxSize),
        pushed.foldlM pushBack empty = .ok v →
          (v.count Point2DI.eq p = true ↔ ∃ q ∈ pushed, q.x = p.x ∧ q.y = p.y) := by
  intro h
  rcases pushBack_exists (v := (empty : FixedVector Point2DI 1)) (by decide) ⟨4, 2⟩ with ⟨v, hpush⟩
  have hcount := h 1 [⟨4, 2⟩] ⟨4, 2⟩ v (by rw [List.foldlM_cons, hpush]; rfl)
  rw [count_eq] at hcount
  simp at hcount

end FixedVector

theorem Footprint.length_deltas_le (footprint : Footprint) : footprint.deltas.length ≤ 25 := by
  rw [deltas, FixedVector.length_elements]
  exact footprint.tiles.size_le

def charAt (W : Nat) (pattern : String) (p : Point2DI) : Char :=
  pattern.toList.getD (p.y * W + p.x).toNat '\x00'

theorem foldl_center {f : Point2DI → Char} {c init : Point2DI} {ps : List Point2DI}
    (hunique : ∀ p ∈ ps, f p = 'c' ↔ p = c) (hc : c ∈ ps ∨ init = c)
    : ps.foldl (fun center p => if f p == 'c' then p else center) init = c := by
  induction ps generalizing init with
  | nil =>
    rcases hc with hc | hc
    . cases hc
    . exact hc
  | cons p ps ih =>
    rw [List.foldl_cons]
    apply ih (fun q hq => hunique q (List.mem_cons_of_mem p hq))
    by_cases hp : p = c
    . refine .inr ?_
      rw [if_pos (beq_iff_eq.mpr ((hunique p List.mem_cons_self).mpr hp)), hp]
    . rcases hc with hc | hc
      . exact .inl ((List.mem_cons.mp hc).resolve_left (Ne.symm hp))
      . refine .inr ?_
        rw [if_neg, hc]
        rw [beq_iff_eq, hunique p List.mem_cons_self]
        exact hp

theorem deltas_makeFootprint {W H : Nat} (h : W * H ≤ 25) {pattern : String} {c : Point2DI}
    (hc : c ∈ pixels W H) (hunique : ∀ p ∈ pixels W H, charAt W pattern p = 'c' ↔ p = c)
    : (makeFootprint W H h pattern).deltas = (pixels W H).map fun p =>
        if charAt W pattern p == ' ' then ⟨0, 0⟩ else ⟨p.x - c.x, p.y - c.y⟩ := by
  have hcenter : (pixels W H).foldl
      (fun center p => if charAt W pattern p == 'c' then p else center) ⟨-1, -1⟩ = c :=
    foldl_center hunique (.inl hc)
  rw [← hcenter]
  apply FixedVector.elements_fill
  . simp [length_pixels, h]
  . simp [FixedVector.new, length_pixels]

-- A space becomes the delta of the centre, which belongs to the drawn shape anyway.
theorem mem_deltas_makeFootprint {W H : Nat} (h : W * H ≤ 25) {pattern : String} {c : Point2DI}
    (hc : c ∈ pixels W H) (hunique : ∀ p ∈ pixels W H, charAt W pattern p = 'c' ↔ p = c)
    {delta : Point2DI}
    : delta ∈ (makeFootprint W H h pattern).deltas
        ↔
      ∃ p ∈ pixels W H, charAt W pattern p ≠ ' ' ∧ delta = ⟨p.x - c.x, p.y - c.y⟩ := by
  rw [deltas_makeFootprint h hc hunique, List.mem_map]
  constructor
  . intro hdelta
    rcases hdelta with ⟨p, hp, rfl⟩
    by_cases hspace : charAt W pattern p = ' '
    . refine ⟨c, hc, ?_, ?_⟩
      . rw [(hunique c hc).mpr rfl]
        decide
      . rw [if_pos (beq_iff_eq.mpr hspace), Int.sub_self, Int.sub_self]
    . exact ⟨p, hp, hspace, if_neg (mt beq_iff_eq.mp hspace)⟩
  . intro hdelta
    rcases hdelta with ⟨p, hp, hspace, rfl⟩
    exact ⟨p, hp, if_neg (mt beq_iff_eq.mp hspace)⟩

theorem center_mem_deltas : ∀ e ∈ allFootprints, (⟨0, 0⟩ : Point2DI) ∈ e.2.deltas := by
  decide +kernel

end Sc2.Utils
