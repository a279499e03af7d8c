import Sc2pp.Impl.Circle
import Sc2pp.Lemmas.Grid
import Mathlib.Logic.Relation
import Mathlib.Tactic.Linarith

/-!
This module contains what the drawing of a circle writes. In each step of the loop `err` is tied to
`x` and `y`, so that `x` is the integer root of `r ^ 2 + 1 - (y + 1) ^ 2`: `OnArc` has the points of
the first octant, `Drawn` their images under the eight symmetries of the square.
-/

namespace Sc2.Utils

open Canvas

namespace Circle

structure OnArc (r x y : Int) : Prop where
  nonneg : 0 ≤ y
  le : y ≤ x
  sq_le : x ^ 2 ≤ r ^ 2 + 1 - (y + 1) ^ 2
  lt_sq : r ^ 2 + 1 - (y + 1) ^ 2 < (x + 1) ^ 2

def Drawn (r : Int) (offset : Point2DI) : Prop :=
  ∃ x y, OnArc r x y ∧ offset ∈ octants x y

structure Tracks (r : Int) (c : Circle) : Prop where
  nonneg : 0 ≤ c.y
  pos : 0 ≤ c.x + 1
  err_eq : c.err = c.x ^ 2 + (c.y + 1) ^ 2 - 1 - r ^ 2
  err_ge : -(2 * c.x) ≤ c.err
  err_le : c.y ≤ c.x → c.err ≤ 0

theorem tracks_start {r : Int} (h : 0 ≤ r) : Tracks r (start r) where
  nonneg := Int.le_refl 0
  pos := by
    simp only [start]
    omega
  err_eq := by
    simp only [start]
    ring
  err_ge := by
    simp only [start]
    omega
  err_le _ := Int.le_refl 0

theorem next_of_err_le {c : Circle} (h : c.err ≤ 0)
    : c.next =
        if 0 < c.err + (2 * (c.y + 1) + 1) then
          ⟨c.x - 1, c.y + 1, c.err + (2 * (c.y + 1) + 1) - (2 * (c.x - 1) + 1)⟩
        else
          ⟨c.x, c.y + 1, c.err + (2 * (c.y + 1) + 1)⟩ := by
  unfold next stepY stepX
  rw [if_pos h]

theorem Tracks.y_next {r : Int} {c : Circle} (h : Tracks r c) (hle : c.y ≤ c.x)
    : c.next.y = c.y + 1 := by
  rw [next_of_err_le (h.err_le hle)]
  split <;> rfl

theorem Tracks.next {r : Int} {c : Circle} (h : Tracks r c) (hle : c.y ≤ c.x)
    : Tracks r c.next := by
  have hnonneg := h.nonneg
  have heq := h.err_eq
  have hge := h.err_ge
  have herr := h.err_le hle
  rw [next_of_err_le herr]
  split
  . next hpos =>
    refine ⟨?_, ?_, ?_, ?_, ?_⟩
    . simp only
      omega
    . simp only
      omega
    . simp only [heq]
      ring
    . simp only
      omega
    . simp only
      omega
  . next hpos =>
    refine ⟨?_, ?_, ?_, ?_, ?_⟩
    . simp only
      omega
    . simp only
      omega
    . simp only [heq]
      ring
    . simp only
      omega
    . simp only
      omega

theorem Tracks.onArc {r : Int} {c : Circle} (h : Tracks r c) (hle : c.y ≤ c.x)
    : OnArc r c.x c.y where
  nonneg := h.nonneg
  le := hle
  sq_le := by
    have heq := h.err_eq
    have herr := h.err_le hle
    omega
  lt_sq := by
    have heq := h.err_eq
    have hge := h.err_ge
    have hsq : (c.x + 1) ^ 2 = c.x ^ 2 + 2 * c.x + 1 := by ring
    omega

theorem root_unique {a x x' : Int} (hx : 0 ≤ x) (hx' : 0 ≤ x') (hle : x ^ 2 ≤ a)
    (hlt : a < (x + 1) ^ 2) (hle' : x' ^ 2 ≤ a) (hlt' : a < (x' + 1) ^ 2) : x = x' := by
  have h : x < x' + 1 := lt_of_pow_lt_pow_left₀ 2 (by omega) (by omega)
  have h' : x' < x + 1 := lt_of_pow_lt_pow_left₀ 2 (by omega) (by omega)
  omega

theorem OnArc.unique {r x x' y : Int} (h : OnArc r x y) (h' : OnArc r x' y) : x = x' := by
  have hnonneg := h.nonneg
  have hle := h.le
  have hle' := h'.le
  apply root_unique (by omega) (by omega) h.sq_le h.lt_sq h'.sq_le h'.lt_sq

-- The loop ends where the octants meet.
theorem Tracks.not_onArc {r : Int} {c : Circle} (h : Tracks r c) (hlt : c.x < c.y) {x y : Int}
    (hy : c.y ≤ y) : ¬ OnArc r x y := by
  intro harc
  have hpos := h.pos
  have heq := h.err_eq
  have hge := h.err_ge
  have hsq : (c.x + 1) ^ 2 = c.x ^ 2 + 2 * c.x + 1 := by ring
  have hrow : (c.y + 1) ^ 2 ≤ (y + 1) ^ 2 := by
    apply pow_le_pow_left₀
    . have := h.nonneg
      omega
    . omega
  have hsqle := harc.sq_le
  have hx : x < c.x + 1 := lt_of_pow_lt_pow_left₀ 2 (by omega) (by omega)
  have hle := harc.le
  omega

theorem onArc_start {r : Int} (h : 0 ≤ r) : OnArc r r 0 where
  nonneg := Int.le_refl 0
  le := h
  sq_le := by omega
  lt_sq := by nlinarith

-- Neighbouring rows of the arc are at most one column apart.
theorem OnArc.row_before {r x y : Int} (h : OnArc r x (y + 1)) (hy : 0 ≤ y)
    : OnArc r x y ∨ OnArc r (x + 1) y := by
  have hle := h.le
  have hsqle := h.sq_le
  have hltsq := h.lt_sq
  by_cases hnext : r ^ 2 + 1 - (y + 1) ^ 2 < (x + 1) ^ 2
  . refine .inl ⟨hy, by omega, ?_, hnext⟩
    nlinarith
  . refine .inr ⟨hy, by omega, by omega, ?_⟩
    nlinarith

theorem OnArc.row_after {r x y : Int} (h : OnArc r x y) (hle : y + 2 ≤ x)
    : ∃ x', OnArc r x' (y + 1) := by
  have hnonneg := h.nonneg
  have hsqle := h.sq_le
  have hltsq := h.lt_sq
  by_cases hsame : x ^ 2 ≤ r ^ 2 + 1 - (y + 1 + 1) ^ 2
  . refine ⟨x, by omega, by omega, hsame, ?_⟩
    nlinarith
  . refine ⟨x - 1, by omega, by omega, ?_, ?_⟩
    . nlinarith
    . have hcancel : x - 1 + 1 = x := by omega
      rw [hcancel]
      omega

theorem OnArc.le_radius {r x y : Int} (h : OnArc r x y) (hr : 0 ≤ r) : x ≤ r := by
  have hnonneg := h.nonneg
  have hle := h.le
  have hsqle := h.sq_le
  have hx : x < r + 1 := lt_of_pow_lt_pow_left₀ 2 (by omega) (by nlinarith)
  omega

theorem OnArc.column {r x y : Int} (h : OnArc r x y) (hr : 0 ≤ r) {k : Int} (hx : x ≤ k)
    (hk : k ≤ r) : ∃ y', OnArc r k y' := by
  rcases Int.eq_ofNat_of_zero_le h.nonneg with ⟨n, hn⟩
  induction n generalizing x y with
  | zero =>
    rw [hn] at h
    have hstart := h.unique (onArc_start hr)
    exact ⟨0, by rwa [show k = x by omega]⟩
  | succ n ih =>
    by_cases heq : x = k
    . exact ⟨y, by rwa [← heq]⟩
    . have hrow : y = (n : Int) + 1 := by omega
      rw [hrow] at h
      rcases h.row_before (by omega) with hbefore | hbefore
      . apply ih hbefore hx rfl
      . apply ih hbefore (by omega) rfl

theorem exists_last {r : Int} (hr : 0 ≤ r) : ∃ x y, OnArc r x y ∧ x ≤ y + 1 := by
  have hrows : ∀ n : Nat, ∀ x y, OnArc r x y → (x - y).toNat = n →
      ∃ x y, OnArc r x y ∧ x ≤ y + 1 := by
    intro n
    induction n using Nat.strong_induction_on with
    | _ n ih =>
      intro x y h hn
      by_cases hle : x ≤ y + 1
      . exact ⟨x, y, h, hle⟩
      . rcases h.row_after (by omega) with ⟨x', h'⟩
        have hx : x' ≤ x := by
          rcases h'.row_before h.nonneg with hbefore | hbefore
          . have := h.unique hbefore
            omega
          . have := h.unique hbefore
            omega
        have hle' := h'.le
        apply ih (x' - (y + 1)).toNat (by omega) x' (y + 1) h' rfl
  apply hrows _ r 0 (onArc_start hr) rfl

theorem mem_octants_bounds {x y : Int} {o : Point2DI} (h : o ∈ octants x y) (hy : 0 ≤ y)
    (hle : y ≤ x) : (-x ≤ o.x ∧ o.x ≤ x) ∧ (-x ≤ o.y ∧ o.y ≤ x) := by
  simp only [octants, List.mem_cons, List.not_mem_nil, or_false] at h
  rcases h with rfl | rfl | rfl | rfl | rfl | rfl | rfl | rfl <;> simp only <;> omega

theorem Drawn.bounds {r : Int} {o : Point2DI} (h : Drawn r o) (hr : 0 ≤ r)
    : (-r ≤ o.x ∧ o.x ≤ r) ∧ (-r ≤ o.y ∧ o.y ≤ r) := by
  rcases h with ⟨x, y, harc, ho⟩
  have hle := harc.le_radius hr
  have hbounds := mem_octants_bounds ho harc.nonneg harc.le
  omega

end Circle

namespace Drawing

variable {T : Type} {g : Grid T} {center : Point2DI} {value : T}

def SquareInside (g : Grid T) (center : Point2DI) (r : Int) : Prop :=
  ∀ o : Point2DI, (-r ≤ o.x ∧ o.x ≤ r) → (-r ≤ o.y ∧ o.y ≤ r) → g.Inside (center.add o)

theorem foldlM_plot (value : T) {width height : Int} {offsets : List Point2DI}
    (h : ∀ o ∈ offsets, center.add o ∈ pixels width height) {d : Drawing T}
    (hsized : d.g.Sized width height)
    : ∃ d', offsets.foldlM (plot center value) d = .ok d' ∧ d'.g.Sized width height ∧
        (∀ p, p ∈ d'.written ↔ p ∈ d.written ∨ p ∈ offsets.map center.add) ∧
        ∀ p, d'.g.cell p
            =
          if p ∈ offsets.map center.add then some value else d.g.cell p := by
  have hpaints : ∀ o ∈ offsets,
      Paints (fun d : Drawing T => d.g.Sized width height)
        (fun d p => (d.g.cell p, decide (p ∈ d.written))) (plot center value)
        (fun o => [center.add o]) (fun _ => (some value, true)) o := by
    intro o ho d hsized
    have hinside : d.g.Inside (center.add o) := by
      rw [← Grid.mem_pixels_iff_inside, hsized.1, hsized.2]
      apply h o ho
    rcases Grid.setAt_of_inside hinside value with ⟨g', hset, hsized', hcell⟩
    rw [hsized.1, hsized.2] at hsized'
    refine ⟨{ d with g := g', written := d.written ++ [center.add o] }, ?_, hsized', ?_⟩
    . unfold plot
      simp only [hset, Outcome.bind_ok, Outcome.pure_eq_ok]
    . funext p
      simp only [paint_apply, hcell, List.mem_append, List.mem_singleton]
      by_cases hp : p = center.add o
      . simp [hp]
      . simp [hp]
  rcases Paints.foldlM hpaints d hsized with ⟨d', hfold, hsized', hview⟩
  rw [← List.map_eq_flatMap] at hview
  refine ⟨d', hfold, hsized', ?_, ?_⟩
  . intro p
    have hp := congrArg Prod.snd (congrFun hview p)
    simp only [paint_apply] at hp
    split at hp <;> simp_all
  . intro p
    have hp := congrArg Prod.fst (congrFun hview p)
    simp only [paint_apply] at hp
    rw [hp]
    split <;> rfl

-- The rows before the one the loop is at are drawn.
structure Inv (g : Grid T) (center : Point2DI) (r : Int) (value : T) (d : Drawing T) : Prop where
  sized : d.g.Sized g.width g.height
  tracks : d.circle.Tracks r
  written : ∀ p, p ∈ d.written ↔
    ∃ x y, Circle.OnArc r x y ∧ y < d.circle.y ∧ p ∈ (Circle.octants x y).map center.add
  cell : ∀ p, d.g.cell p = if p ∈ d.written then some value else g.cell p

theorem inv_start {r : Int} (h : 0 ≤ r) : Inv g center r value (start g r) where
  sized := ⟨rfl, rfl⟩
  tracks := Circle.tracks_start h
  written := by
    intro p
    simp only [start, Circle.start, List.not_mem_nil, false_iff, not_exists, not_and]
    intro x y harc hy
    have := harc.nonneg
    omega
  cell := by
    intro p
    simp [start]

theorem Inv.step {r : Int} {d : Drawing T} (h : Inv g center r value d)
    (hsquare : SquareInside g center r) (hr : 0 ≤ r) (hle : d.circle.y ≤ d.circle.x)
    : ∃ d', body center value d = .inr d' ∧ Inv g center r value d' := by
  have harc := h.tracks.onArc hle
  have hinside : ∀ o ∈ Circle.octants d.circle.x d.circle.y,
      center.add o ∈ pixels g.width g.height := by
    intro o ho
    rw [Grid.mem_pixels_iff_inside]
    have hbounds := Circle.Drawn.bounds ⟨_, _, harc, ho⟩ hr
    apply hsquare o hbounds.1 hbounds.2
  rcases foldlM_plot value hinside h.sized
    with ⟨plotted, hfold, hsized, hwritten, hcell⟩
  refine ⟨{ plotted with circle := d.circle.next }, ?_, hsized, h.tracks.next hle, ?_, ?_⟩
  . unfold body
    rw [hfold]
  . intro p
    simp only [hwritten, h.written, h.tracks.y_next hle]
    constructor
    . intro hp
      rcases hp with ⟨x, y, hxy, hy, hp⟩ | hp
      . exact ⟨x, y, hxy, by omega, hp⟩
      . exact ⟨_, _, harc, by omega, hp⟩
    . intro hp
      rcases hp with ⟨x, y, hxy, hy, hp⟩
      by_cases hlast : y = d.circle.y
      . subst hlast
        rw [hxy.unique harc] at hp
        exact .inr hp
      . exact .inl ⟨x, y, hxy, by omega, hp⟩
  . intro p
    simp only [hcell, h.cell, hwritten]
    grind

structure Drew (g : Grid T) (center : Point2DI) (r : Int) (value : T) (d : Drawing T)
    : Prop where
  sized : d.g.Sized g.width g.height
  written : ∀ p, p ∈ d.written ↔ ∃ o, Circle.Drawn r o ∧ p = center.add o
  cell : ∀ p, d.g.cell p = if p ∈ d.written then some value else g.cell p

theorem Drew.mem_written_add {r : Int} {d : Drawing T} (h : Drew g center r value d) (o : Point2DI)
    : (center.add o ∈ d.written) = Circle.Drawn r o := by
  rw [h.written, eq_iff_iff]
  constructor
  . intro hadd
    rcases hadd with ⟨o', hdrawn, heq⟩
    rwa [Point2DI.add_left_cancel heq]
  . intro hdrawn
    exact ⟨o, hdrawn, rfl⟩

theorem Inv.drew {r : Int} {d : Drawing T} (h : Inv g center r value d)
    (hlt : d.circle.x < d.circle.y) : Drew g center r value d where
  sized := h.sized
  written := by
    intro p
    rw [h.written]
    simp only [List.mem_map]
    constructor
    . intro hp
      rcases hp with ⟨x, y, harc, -, o, ho, rfl⟩
      exact ⟨o, ⟨x, y, harc, ho⟩, rfl⟩
    . intro hp
      rcases hp with ⟨o, ⟨x, y, harc, ho⟩, rfl⟩
      refine ⟨x, y, harc, ?_, o, ho, rfl⟩
      by_contra hle
      exact h.tracks.not_onArc hlt (by omega) harc
  cell := h.cell

theorem run_drew (value : T) {r : Int} (hsquare : SquareInside g center r) (hr : 0 ≤ r)
    : ∃ d, (loop center value).run (start g r) = .inr d ∧ Drew g center r value d := by
  have hbody : ∀ d d', (loop center value).cond d = true → (loop center value).body d = .inr d' →
      Inv g center r value d → Inv g center r value d' := by
    intro d d' hcond hnext hinv
    rcases hinv.step hsquare hr (of_decide_eq_true hcond) with ⟨d₁, hd₁, hinv₁⟩
    rw [show (loop center value).body d = .inr d₁ from hd₁, Sum.inr.injEq] at hnext
    rwa [← hnext]
  rcases (loop center value).run_cases hbody (inv_start hr)
    with ⟨d, hrun, hinv, hcond⟩ | ⟨fault, d, -, hinv, hcond, hfault⟩
  . have hlt : d.circle.x < d.circle.y := by
      apply Int.not_le.mp (of_decide_eq_false hcond)
    exact ⟨d, hrun, hinv.drew hlt⟩
  . rcases hinv.step hsquare hr (of_decide_eq_true hcond) with ⟨d₁, hd₁, -⟩
    rw [show (loop center value).body d = .inr d₁ from hd₁] at hfault
    cases hfault

theorem run_of_neg {r : Int} (h : r < 0) : (loop center value).run (start g r) = .inr (start g r) := by
  have hvariant : (loop center value).variant (start g r) = 0 := by
    simp only [loop, start, Circle.start]
    omega
  unfold Loop.run
  rw [hvariant]
  rfl

end Drawing

end Sc2.Utils
