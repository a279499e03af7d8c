import Sc2pp.Lemmas.CircleShape
import Mathlib.Data.Nat.Sqrt
import Mathlib.Tactic.IntervalCases

/-!
This module contains how far the drawn pixels are from the ideal circle. The source adds
`2 * y + 1` to `err` after it has increased `y`, so `err` is `x ^ 2 + (y + 1) ^ 2 - 1 - r ^ 2` and not
`x ^ 2 + y ^ 2 - r ^ 2`: the circle is drawn too small.

Column `r - 1 - i` of the first octant ends at the integer root of `heightSq r i`. Its last pixel is
near the circle only if this root loses at most `2 * i`. In a large circle three consecutive columns
cannot all lose that little, as the second difference of their heights is too large for that.
-/

namespace Sc2.Utils.Circle

def NearCircle (r : Int) (o : Point2DI) : Prop :=
  if r = 0 then
    o = ⟨0, 0⟩
  else
    (r - 1) ^ 2 < o.x ^ 2 + o.y ^ 2 ∧ o.x ^ 2 + o.y ^ 2 < (r + 1) ^ 2

def heightSq (r i : Int) : Int :=
  2 * r * i - i ^ 2 + 1

theorem exists_root {a : Int} (ha : 0 ≤ a) : ∃ s : Int, 0 ≤ s ∧ s ^ 2 ≤ a ∧ a < (s + 1) ^ 2 := by
  rcases Int.eq_ofNat_of_zero_le ha with ⟨n, rfl⟩
  refine ⟨n.sqrt, by omega, ?_, ?_⟩
  . exact_mod_cast Nat.sqrt_le' n
  . exact_mod_cast Nat.lt_succ_sqrt' n

theorem onArc_column {r i s : Int} (hi : 0 ≤ i) (hr : 4 * i + 2 ≤ r) (hs : 0 ≤ s)
    (hle : s ^ 2 ≤ heightSq r i) (hlt : heightSq r i < (s + 1) ^ 2) : OnArc r (r - 1 - i) s := by
  unfold heightSq at hle hlt
  have hs' : s ≤ r - 1 - i := by
    have hsq : s < r - 1 - i + 1 := lt_of_pow_lt_pow_left₀ 2 (by omega) (by nlinarith)
    omega
  refine ⟨hs, hs', ?_, ?_⟩
  . nlinarith
  . nlinarith

theorem tight_of_near {r i s : Int}
    (h : (r - 1) ^ 2 < (r - 1 - i) ^ 2 + s ^ 2) : heightSq r i - 2 * i ≤ s ^ 2 := by
  unfold heightSq
  nlinarith

structure TightRoot (r i s : Int) : Prop where
  nonneg : 0 ≤ s
  le : s ^ 2 ≤ heightSq r i
  ge : heightSq r i - 2 * i ≤ s ^ 2

section

variable {r j s₀ s₁ s₂ : Int}

theorem TightRoot.lt_next (h₀ : TightRoot r j s₀) (h₁ : TightRoot r (j + 1) s₁)
    (hr : 4 * j + 3 < 2 * r) : s₀ < s₁ := by
  have hle := h₀.le
  have hge := h₁.ge
  have hpos := h₁.nonneg
  unfold heightSq at hle hge
  apply lt_of_pow_lt_pow_left₀ 2 hpos
  nlinarith

theorem TightRoot.rise_bounds (h₀ : TightRoot r j s₀) (h₁ : TightRoot r (j + 1) s₁)
    : 2 * r - 4 * j - 3 ≤ (s₁ - s₀) * (s₁ + s₀) ∧ (s₁ - s₀) * (s₁ + s₀) ≤ 2 * r - 1 := by
  have hle₀ := h₀.le
  have hge₀ := h₀.ge
  have hle₁ := h₁.le
  have hge₁ := h₁.ge
  unfold heightSq at hle₀ hge₀ hle₁ hge₁
  constructor
  . nlinarith
  . nlinarith

theorem TightRoot.rise_ge (h₀ : TightRoot r j s₀) (h₁ : TightRoot r (j + 1) s₁) (hj : 5 ≤ j)
    (hr : 4 * j ^ 2 + 10 * j + 5 < r) : 2 * j + 1 < (s₁ - s₀) ^ 2 := by
  by_contra hsmall
  have hlt : s₀ < s₁ := h₀.lt_next h₁ (by nlinarith)
  have hs₀ := h₀.nonneg
  have hrise := (h₀.rise_bounds h₁).1
  have hheight : s₁ ^ 2 ≤ 2 * r * (j + 1) := by
    have hle := h₁.le
    unfold heightSq at hle
    nlinarith
  have hsum : (s₁ + s₀) ^ 2 ≤ 4 * s₁ ^ 2 := by nlinarith
  have hprod : (2 * r - 4 * j - 3) ^ 2 ≤ (2 * j + 1) * (8 * r * (j + 1)) := by
    calc (2 * r - 4 * j - 3) ^ 2
      _ ≤ ((s₁ - s₀) * (s₁ + s₀)) ^ 2 := pow_le_pow_left₀ (by nlinarith) hrise 2
      _ = (s₁ - s₀) ^ 2 * (s₁ + s₀) ^ 2 := mul_pow _ _ 2
      _ ≤ (2 * j + 1) * (4 * s₁ ^ 2) :=
        mul_le_mul (Int.not_lt.mp hsmall) hsum (sq_nonneg _) (by omega)
      _ ≤ (2 * j + 1) * (8 * r * (j + 1)) :=
        Int.mul_le_mul_of_nonneg_left (by linarith) (by omega)
  nlinarith

theorem TightRoot.rise_le (h₀ : TightRoot r j s₀) (h₁ : TightRoot r (j + 1) s₁) (hj : 5 ≤ j)
    (hlow : 4 * j ^ 2 + 10 * j + 5 < r) (hhigh : r ≤ 4 * j ^ 2 + 18 * j + 19)
    : (s₁ - s₀) ^ 2 ≤ 2 * j + 11 := by
  by_contra hlarge
  have hlt : s₀ < s₁ := h₀.lt_next h₁ (by nlinarith)
  have hs₀ := h₀.nonneg
  have hrise := (h₀.rise_bounds h₁).2
  have hprod : (s₁ - s₀) * s₀ < r := by nlinarith
  have hsq : (s₁ - s₀) ^ 2 * s₀ ^ 2 < r ^ 2 := by
    rw [← mul_pow]
    apply pow_lt_pow_left₀ hprod
    . apply Int.mul_nonneg
      . omega
      . exact hs₀
    . decide
  have hheight : 2 * r * j - j ^ 2 - 2 * j + 1 ≤ s₀ ^ 2 := by
    have hge := h₀.ge
    unfold heightSq at hge
    omega
  have hbelow : (2 * j + 12) * (2 * r * j - j ^ 2 - 2 * j + 1) ≤ (s₁ - s₀) ^ 2 * s₀ ^ 2 := by
    apply mul_le_mul (by omega) hheight (by nlinarith) (sq_nonneg _)
  have habove : r ^ 2 ≤ r * (4 * j ^ 2 + 18 * j + 19) := by nlinarith
  have hmargin : (6 * j - 19) * (4 * j ^ 2 + 10 * j + 5) ≤ (6 * j - 19) * r :=
    Int.mul_le_mul_of_nonneg_left (by omega) (by omega)
  nlinarith only [hsq, hbelow, habove, hmargin, hj]

theorem TightRoot.root_ge (h₁ : TightRoot r (j + 1) s₁) (hj : 5 ≤ j)
    (hr : 4 * j ^ 2 + 10 * j + 5 < r) : 4 * j + 15 ≤ s₁ := by
  have hge := h₁.ge
  unfold heightSq at hge
  have hlt : 4 * j + 14 < s₁ := by
    apply lt_of_pow_lt_pow_left₀ 2 h₁.nonneg
    nlinarith
  omega

theorem not_three_tight (hj : 5 ≤ j) (hlow : 4 * j ^ 2 + 10 * j + 5 < r)
    (hhigh : r ≤ 4 * j ^ 2 + 18 * j + 19) (h₀ : TightRoot r j s₀)
    (h₁ : TightRoot r (j + 1) s₁) : ¬ TightRoot r (j + 2) s₂ := by
  intro h₂
  have hlt : s₁ < s₂ := by
    have hnext : TightRoot r (j + 1 + 1) s₂ := by rwa [Int.add_assoc]
    apply h₁.lt_next hnext
    nlinarith
  have hge := h₀.rise_ge h₁ hj hlow
  have hle := h₀.rise_le h₁ hj hlow hhigh
  have hroot := h₁.root_ge hj hlow
  have hdiff : 2 * s₁ * ((s₂ - s₁) - (s₁ - s₀)) + (s₁ - s₀) ^ 2 + (s₂ - s₁) ^ 2
      = s₂ ^ 2 - 2 * s₁ ^ 2 + s₀ ^ 2 := by
    ring
  have hbounds : -(4 * j + 6) ≤ s₂ ^ 2 - 2 * s₁ ^ 2 + s₀ ^ 2 ∧
      s₂ ^ 2 - 2 * s₁ ^ 2 + s₀ ^ 2 ≤ 4 * j + 2 := by
    have hle₀ := h₀.le
    have hge₀ := h₀.ge
    have hle₁ := h₁.le
    have hge₁ := h₁.ge
    have hle₂ := h₂.le
    have hge₂ := h₂.ge
    unfold heightSq at hle₀ hge₀ hle₁ hge₁ hle₂ hge₂
    constructor
    . nlinarith
    . nlinarith
  have hrise₀ : s₀ < s₁ := h₀.lt_next h₁ (by nlinarith)
  by_cases hgrows : s₁ - s₀ ≤ s₂ - s₁
  . have hsq : (s₁ - s₀) ^ 2 ≤ (s₂ - s₁) ^ 2 := pow_le_pow_left₀ (by omega) hgrows 2
    have hcross : 0 ≤ 2 * s₁ * ((s₂ - s₁) - (s₁ - s₀)) := by
      apply Int.mul_nonneg
      . omega
      . omega
    omega
  . have hsq : (s₂ - s₁) ^ 2 ≤ (s₁ - s₀) ^ 2 := pow_le_pow_left₀ (by omega) (by omega) 2
    have hcross : 2 * s₁ * ((s₂ - s₁) - (s₁ - s₀)) ≤ 2 * s₁ * (-1) := by
      apply Int.mul_le_mul_of_nonneg_left
      . omega
      . omega
    omega

end

theorem exists_window {r : Int} (hr : 155 < r)
    : ∃ j : Int, 5 ≤ j ∧ 4 * j ^ 2 + 10 * j + 5 < r ∧ r ≤ 4 * j ^ 2 + 18 * j + 19 := by
  have hexists : ∃ n : Nat, r ≤ 4 * (n : Int) ^ 2 + 10 * n + 5 := by
    refine ⟨r.toNat, ?_⟩
    rw [Int.toNat_of_nonneg (by omega)]
    nlinarith
  have hfound := Nat.find_spec hexists
  have hmin : ∀ m < Nat.find hexists, ¬ r ≤ 4 * (m : Int) ^ 2 + 10 * m + 5 := by
    intro m hm
    apply Nat.find_min hexists hm
  generalize Nat.find hexists = n at hfound hmin
  have hn : 6 ≤ n := by
    by_contra hlt
    have hn : n ≤ 5 := by omega
    interval_cases n <;> omega
  refine ⟨n - 1, by omega, ?_, ?_⟩
  . have hbefore := hmin (n - 1) (by omega)
    rw [Int.ofNat_sub (by omega)] at hbefore
    apply Int.not_le.mp hbefore
  . linarith

def Inward (r : Int) : Prop :=
  ∃ x y, OnArc r x y ∧ x ^ 2 + y ^ 2 ≤ (r - 1) ^ 2

theorem inward_of_large {r : Int} (hr : 155 < r) : Inward r := by
  rcases exists_window hr with ⟨j, hj, hlow, hhigh⟩
  by_contra hnone
  have hcolumn : ∀ i, 0 ≤ i → i ≤ j + 2 → ∃ s, TightRoot r i s := by
    intro i hi hij
    have hheight : 0 ≤ heightSq r i := by
      unfold heightSq
      nlinarith
    rcases exists_root hheight with ⟨s, hs, hle, hlt⟩
    refine ⟨s, hs, hle, ?_⟩
    apply tight_of_near
    by_contra hfar
    exact hnone ⟨r - 1 - i, s, onArc_column hi (by nlinarith) hs hle hlt, by omega⟩
  rcases hcolumn j (by omega) (by omega) with ⟨s₀, h₀⟩
  rcases hcolumn (j + 1) (by omega) (by omega) with ⟨s₁, h₁⟩
  rcases hcolumn (j + 2) (by omega) (by omega) with ⟨s₂, h₂⟩
  exact not_three_tight hj hlow hhigh h₀ h₁ h₂

def plotsInward (r : Int) : Nat → Circle → Bool
  | 0, _ => false
  | n + 1, c =>
    decide (c.y ≤ c.x) && (decide (c.x ^ 2 + c.y ^ 2 ≤ (r - 1) ^ 2) || plotsInward r n c.next)

theorem inward_of_plotsInward {r : Int} {n : Nat} {c : Circle} (h : Tracks r c)
    (hplots : plotsInward r n c = true) : Inward r := by
  induction n generalizing c with
  | zero => cases hplots
  | succ n ih =>
    simp only [plotsInward, Bool.and_eq_true, Bool.or_eq_true, decide_eq_true_eq] at hplots
    rcases hplots with ⟨hle, hfar | hlater⟩
    . exact ⟨c.x, c.y, h.onArc hle, hfar⟩
    . apply ih (h.next hle) hlater

def nearRadii : List Int := [0, 1, 2, 3, 5, 8, 13]

theorem plotsInward_small
    : ∀ n ∈ List.range 156, (n : Int) ∉ nearRadii → plotsInward n n (start n) = true := by
  decide +kernel

theorem inward_of_not_mem {r : Int} (hr : 0 ≤ r) (h : r ∉ nearRadii) : Inward r := by
  by_cases hlarge : 155 < r
  . apply inward_of_large hlarge
  . rcases Int.eq_ofNat_of_zero_le hr with ⟨n, rfl⟩
    apply inward_of_plotsInward (tracks_start hr) (plotsInward_small n _ h)
    rw [List.mem_range]
    omega

theorem near_small
    : ∀ r ∈ nearRadii, r ≠ 0 → ∀ x ∈ List.range 14, ∀ y ∈ List.range 14,
        (x : Int) ^ 2 ≤ r ^ 2 + 1 - ((y : Int) + 1) ^ 2 →
        r ^ 2 + 1 - ((y : Int) + 1) ^ 2 < ((x : Int) + 1) ^ 2 → (y : Int) ≤ x →
        (r - 1) ^ 2 < (x : Int) ^ 2 + (y : Int) ^ 2 := by
  decide +kernel

theorem OnArc.near {r x y : Int} (h : OnArc r x y) (hr : r ∈ nearRadii) (hne : r ≠ 0)
    : (r - 1) ^ 2 < x ^ 2 + y ^ 2 := by
  have hbounds : ∀ r ∈ nearRadii, 0 ≤ r ∧ r < 14 := by decide
  have hradius := h.le_radius (hbounds r hr).1
  have hlt := (hbounds r hr).2
  have hle := h.le
  have hnonneg := h.nonneg
  rcases Int.eq_ofNat_of_zero_le hnonneg with ⟨n, rfl⟩
  rcases Int.eq_ofNat_of_zero_le (show 0 ≤ x by omega) with ⟨m, rfl⟩
  apply near_small r hr hne m _ n _ h.sq_le h.lt_sq hle
  . rw [List.mem_range]
    omega
  . rw [List.mem_range]
    omega

theorem norm_of_mem_octants {x y : Int} {o : Point2DI} (h : o ∈ octants x y)
    : o.x ^ 2 + o.y ^ 2 = x ^ 2 + y ^ 2 := by
  simp only [octants, List.mem_cons, List.not_mem_nil, or_false] at h
  rcases h with rfl | rfl | rfl | rfl | rfl | rfl | rfl | rfl <;> simp only <;> ring

theorem near_iff {r : Int} (hr : 0 ≤ r)
    : (∀ o, Drawn r o → NearCircle r o) ↔ r ∈ nearRadii := by
  unfold NearCircle
  constructor
  . intro hnear
    by_contra hmem
    have hzero : r ≠ 0 := by
      intro hzero
      rw [hzero] at hmem
      exact hmem (by decide)
    rcases inward_of_not_mem hr hmem with ⟨x, y, harc, hfar⟩
    have hbound := hnear _ harc.drawn
    rw [if_neg hzero] at hbound
    apply Int.not_lt.mpr hfar hbound.1
  . intro hmem o ho
    split
    . next hzero =>
      have hbounds := ho.bounds hr
      cases o
      simp only [Point2DI.mk.injEq]
      simp only at hbounds
      omega
    . next hzero =>
      rcases ho with ⟨x, y, harc, hoct⟩
      have hnonneg := harc.nonneg
      have hsqle := harc.sq_le
      rw [norm_of_mem_octants hoct]
      refine ⟨harc.near hmem hzero, ?_⟩
      nlinarith

end Sc2.Utils.Circle

namespace Sc2.Utils

open Drawing in
theorem drawCirle_near_iff {T : Type} {g : Grid T} {center : Point2DI} {r : Int} (hr : 0 ≤ r)
    (hsquare : SquareInside g center r) (value : T)
    : ∃ d, (loop center value).run (start g r) = .inr d ∧ drawCirle g center r value = .ok d.g ∧
        ((∀ o, center.add o ∈ d.written → Circle.NearCircle r o)
          ↔
        r ∈ [0, 1, 2, 3, 5, 8, 13]) := by
  rcases run_drew value hsquare hr with ⟨d, hrun, hdrew⟩
  refine ⟨d, hrun, ?_, ?_⟩
  . unfold drawCirle
    rw [hrun]
    rfl
  . simp only [hdrew.mem_written_add]
    apply Circle.near_iff hr

theorem squareInside_sheet {r : Int} (hr : r ≤ 4) : Drawing.SquareInside sheet ⟨4, 4⟩ r := by
  intro o hx hy
  simp only [Grid.Inside, sheet, Point2DI.add_x, Point2DI.add_y]
  omega

theorem drawCirle_near_iff_sheet
    : ∃ d : Drawing Char, drawCirle sheet ⟨4, 4⟩ 3 'o' = .ok d.g ∧
        ∀ o, (⟨4, 4⟩ : Point2DI).add o ∈ d.written → Circle.NearCircle 3 o := by
  rcases drawCirle_near_iff (r := 3) (by decide) (squareInside_sheet (by decide)) 'o'
    with ⟨d, -, hdraw, hnear⟩
  exact ⟨d, hdraw, hnear.mpr (by decide)⟩

theorem not_near_radius_four
    : ¬ ∀ (g : Grid Char) (center : Point2DI) (r : Int) (value : Char), 0 ≤ r →
        Drawing.SquareInside g center r →
          ∃ d, (Drawing.loop center value).run (Drawing.start g r) = .inr d ∧
            ∀ o, center.add o ∈ d.written → Circle.NearCircle r o := by
  intro h
  have hsquare := squareInside_sheet (Int.le_refl 4)
  rcases h sheet ⟨4, 4⟩ 4 'o' (by decide) hsquare with ⟨d, hrun, hnear⟩
  rcases Drawing.run_drew 'o' hsquare (by decide) with ⟨d', hrun', hdrew⟩
  rw [hrun, Sum.inr.injEq] at hrun'
  subst hrun'
  simp only [hdrew.mem_written_add] at hnear
  have hfour := (Circle.near_iff (by decide)).mp hnear
  revert hfour
  decide

end Sc2.Utils
