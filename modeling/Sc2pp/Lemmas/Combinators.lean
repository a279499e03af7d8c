import Sc2pp.Lemmas.GridUtils

/-!
This module contains how the combinators of two grids agree. `zip_with` stores each result as a
`bool`, so `throughBool` is what becomes of it.
-/

namespace Sc2.Utils

open Canvas

theorem pixels_pairwise (width height : Int)
    : (pixels width height).Pairwise fun p q => p.y < q.y ∨ (p.y = q.y ∧ p.x < q.x) := by
  unfold pixels
  rw [List.pairwise_flatMap]
  constructor
  . intro y hy
    rw [List.pairwise_map]
    apply List.pairwise_lt_range.imp
    intro x x' hx
    refine .inr ⟨rfl, ?_⟩
    simp only
    omega
  . apply List.pairwise_lt_range.imp
    intro y y' hy p hp q hq
    rcases List.mem_map.mp hp with ⟨x, -, rfl⟩
    rcases List.mem_map.mp hq with ⟨x', -, rfl⟩
    refine .inl ?_
    simp only
    omega

def throughBool {R : Type} [BoolLike R] (r : R) : R :=
  ofBool (toBool r)

section

variable {A B R : Type} {a : Grid A} {b : Grid B}

-- The values of both grids at a pixel.
def ValuesAt (a : Grid A) (b : Grid B) (p : Point2DI) (x : A) (y : B) : Prop :=
  a.cell p = some x ∧ b.cell p = some y

theorem exists_valuesAt (hsized : b.Sized a.width a.height) {p : Point2DI} (hp : a.Inside p)
    : ∃ x y, ValuesAt a b p x y ∧ a.getAt p = .ok x ∧ b.getAt p = .ok y := by
  rcases Grid.exists_cell hp with ⟨x, hx, hgetx⟩
  rcases Grid.exists_cell ((Grid.inside_iff_of_sized hsized ⟨rfl, rfl⟩ p).mpr hp)
    with ⟨y, hy, hgety⟩
  exact ⟨x, y, ⟨hx, hy⟩, hgetx, hgety⟩

theorem inside_of_cell {p : Point2DI} {x : A} (h : a.cell p = some x) : a.Inside p := by
  by_contra hp
  rw [Grid.cell_eq_none_iff.mpr hp] at h
  cases h

-- A loop that writes every pixel of a fresh grid in turn.
theorem fill_spec [Inhabited R] {f : Grid R → Point2DI → Outcome (Grid R)} {v : Point2DI → Option R}
    (hf : ∀ p, a.Inside p → ∃ r, v p = some r ∧ ∀ grid, f grid p = grid.setAt p r)
    : ∃ res, (do
          let res ← Grid.new a.width a.height default
          (pixels a.width a.height).foldlM f res) = .ok res ∧
        res.Sized a.width a.height ∧ ∀ p, a.Inside p → res.cell p = v p := by
  rcases Grid.new_exists a (default : R) with ⟨blank, hblank⟩
  have hpaints : ∀ p ∈ pixels a.width a.height,
      Paints (Grid.Sized a.width a.height) Grid.cell f (fun p => [p]) v p := by
    intro p hp
    rcases hf p (Grid.mem_pixels_iff_inside.mp hp) with ⟨r, hr, hset⟩
    apply Grid.paints_setAt hset rfl hr hp
  rcases Paints.foldlM hpaints blank (Grid.cell_new hblank).1 with ⟨res, hfold, hsized, hcell⟩
  refine ⟨res, ?_, hsized, ?_⟩
  . rw [hblank, Outcome.bind_ok, hfold]
  . intro p hp
    rw [hcell, paint_apply, if_pos]
    rw [List.flatMap_singleton']
    apply Grid.mem_pixels_iff_inside.mpr hp

theorem zipWith_spec [Inhabited R] [BoolLike R] (hsized : b.Sized a.width a.height)
    (pred : A → B → R)
    : ∃ res, zipWith a b pred = .ok res ∧ res.Sized a.width a.height ∧
        ∀ p x y, ValuesAt a b p x y → res.cell p = some (throughBool (pred x y)) := by
  let v (p : Point2DI) : Option R :=
    (a.cell p).bind fun x => (b.cell p).map fun y => throughBool (pred x y)
  have hv : ∀ p x y, ValuesAt a b p x y → v p = some (throughBool (pred x y)) := by
    intro p x y h
    simp only [v, h.1, h.2, Option.bind_some, Option.map_some]
  have hf : ∀ p, a.Inside p → ∃ r, v p = some r ∧ ∀ grid : Grid R, (do
      let value := toBool (pred (← a.getAt p) (← b.getAt p))
      grid.setAt p (ofBool value)) = grid.setAt p r := by
    intro p hp
    rcases exists_valuesAt hsized hp with ⟨x, y, hvalues, hgetx, hgety⟩
    refine ⟨_, hv p x y hvalues, ?_⟩
    intro grid
    simp only [hgetx, hgety, Outcome.bind_ok]
    rfl
  rcases fill_spec hf with ⟨res, hzip, hres, hcell⟩
  refine ⟨res, hzip, hres, ?_⟩
  intro p x y h
  rw [hcell p (inside_of_cell h.1), hv p x y h]

theorem markWith_spec [Inhabited A] [BoolLike B] (hsized : b.Sized a.width a.height) (mark : A)
    : ∃ res, markWith a b mark = .ok res ∧ res.Sized a.width a.height ∧
        ∀ p x y, ValuesAt a b p x y → res.cell p = some (if toBool y then mark else x) := by
  let v (p : Point2DI) : Option A :=
    (a.cell p).bind fun x => (b.cell p).map fun y => if toBool y then mark else x
  have hv : ∀ p x y, ValuesAt a b p x y → v p = some (if toBool y then mark else x) := by
    intro p x y h
    simp only [v, h.1, h.2, Option.bind_some, Option.map_some]
  have hf : ∀ p, a.Inside p → ∃ r, v p = some r ∧ ∀ grid : Grid A, (do
      let value ← if toBool (← b.getAt p) then pure mark else a.getAt p
      grid.setAt p value) = grid.setAt p r := by
    intro p hp
    rcases exists_valuesAt hsized hp with ⟨x, y, hvalues, hgetx, hgety⟩
    refine ⟨_, hv p x y hvalues, ?_⟩
    intro grid
    simp only [hgetx, hgety, Outcome.bind_ok]
    cases toBool y <;> rfl
  rcases fill_spec hf with ⟨res, hmark, hres, hcell⟩
  refine ⟨res, hmark, hres, ?_⟩
  intro p x y h
  rw [hcell p (inside_of_cell h.1), hv p x y h]

def UnitesTrue [BoolLike R] (a : Grid A) (b : Grid B) (f : A → B → R) (zipped : Grid R) : Prop :=
  ∃ points, unite a b (fun x y => toBool (f x y)) = .ok points ∧
    points.Pairwise (fun p q => p.y < q.y ∨ (p.y = q.y ∧ p.x < q.x)) ∧
    ∀ p, p ∈ points ↔ ∃ r, zipped.cell p = some r ∧ toBool r = true

theorem unitesTrue_of_zipWith [Inhabited R] [BoolLike R] (hsized : b.Sized a.width a.height)
    {f : A → B → R} {zipped : Grid R} (hzip : zipWith a b f = .ok zipped)
    : UnitesTrue a b f zipped := by
  rcases zipWith_spec hsized f with ⟨zipped', hzip', hsized', hcell⟩
  rw [hzip, Except.ok.injEq] at hzip'
  subst hzip'
  refine ⟨_, unite_eq_ok hsized _, (pixels_pairwise a.width a.height).filter _, ?_⟩
  intro p
  rw [List.mem_filter, Grid.mem_pixels_iff_inside]
  by_cases hp : a.Inside p
  . rcases exists_valuesAt hsized hp with ⟨x, y, hvalues, -, -⟩
    simp only [hcell p x y hvalues, unitesAt, hvalues.1, hvalues.2, hp, true_and,
      Option.some.injEq, exists_eq_left', throughBool, toBool_ofBool]
  . have houtside : zipped.cell p = none := by
      rw [Grid.cell_eq_none_iff, Grid.inside_iff_of_sized hsized' ⟨rfl, rfl⟩]
      exact hp
    simp [hp, houtside]

theorem zipWith_pointwise_iff [Inhabited R] [BoolLike R] (hsized : b.Sized a.width a.height)
    {f : A → B → R} {zipped : Grid R} (hzip : zipWith a b f = .ok zipped)
    : (∀ p x y, ValuesAt a b p x y → zipped.cell p = some (f x y))
        ↔
      ∀ p x y, ValuesAt a b p x y → throughBool (f x y) = f x y := by
  rcases zipWith_spec hsized f with ⟨zipped', hzip', -, hcell⟩
  rw [hzip, Except.ok.injEq] at hzip'
  subst hzip'
  constructor
  . intro h p x y hvalues
    have hstored := hcell p x y hvalues
    rw [h p x y hvalues, Option.some.injEq] at hstored
    exact hstored.symm
  . intro h p x y hvalues
    rw [hcell p x y hvalues, h p x y hvalues]

theorem markWith_eq_iff [Inhabited A] [BoolLike A] [BoolLike B] (hsized : b.Sized a.width a.height)
    {mark : A} {marked zipped : Grid A} (hmark : markWith a b mark = .ok marked)
    (hzip : zipWith a b (fun u v => if toBool v then mark else u) = .ok zipped)
    : (∀ p, marked.cell p = zipped.cell p)
        ↔
      ∀ p x y, ValuesAt a b p x y →
        throughBool (if toBool y then mark else x) = if toBool y then mark else x := by
  rw [← zipWith_pointwise_iff hsized hzip]
  rcases markWith_spec hsized mark with ⟨marked', hmark', hsized₁, hcell⟩
  rw [hmark, Except.ok.injEq] at hmark'
  subst hmark'
  rcases zipWith_spec hsized (fun u v => if toBool v then mark else u)
    with ⟨zipped', hzip', hsized₂, -⟩
  rw [hzip, Except.ok.injEq] at hzip'
  subst hzip'
  constructor
  . intro h p x y hvalues
    rw [← h, hcell p x y hvalues]
  . intro h p
    by_cases hp : a.Inside p
    . rcases exists_valuesAt hsized hp with ⟨x, y, hvalues, -, -⟩
      rw [hcell p x y hvalues, h p x y hvalues]
    . rw [Grid.cell_eq_none_iff.mpr, Grid.cell_eq_none_iff.mpr]
      . rwa [Grid.inside_iff_of_sized hsized₂ ⟨rfl, rfl⟩]
      . rwa [Grid.inside_iff_of_sized hsized₁ ⟨rfl, rfl⟩]

theorem combinators_agree_iff [Inhabited A] [BoolLike A] [BoolLike B] [Inhabited R] [BoolLike R]
    (hsized : b.Sized a.width a.height) (f : A → B → R) (mark : A)
    : ∃ zipped marked zippedMark,
        zipWith a b f = .ok zipped ∧ markWith a b mark = .ok marked ∧
        zipWith a b (fun u v => if toBool v then mark else u) = .ok zippedMark ∧
        (((∀ p x y, ValuesAt a b p x y → zipped.cell p = some (f x y)) ∧
            (∀ p, marked.cell p = zippedMark.cell p) ∧ UnitesTrue a b f zipped)
          ↔
        ∀ p x y, ValuesAt a b p x y →
          throughBool (f x y) = f x y ∧
          throughBool (if toBool y then mark else x) = if toBool y then mark else x) := by
  rcases zipWith_spec hsized f with ⟨zipped, hzip, -⟩
  rcases markWith_spec hsized mark with ⟨marked, hmark, -⟩
  rcases zipWith_spec hsized (fun u v => if toBool v then mark else u) with ⟨zippedMark, hzipMark, -⟩
  refine ⟨zipped, marked, zippedMark, hzip, hmark, hzipMark, ?_⟩
  rw [zipWith_pointwise_iff hsized hzip, markWith_eq_iff hsized hmark hzipMark]
  constructor
  . intro h p x y hvalues
    exact ⟨h.1 p x y hvalues, h.2.1 p x y hvalues⟩
  . intro h
    refine ⟨?_, ?_, unitesTrue_of_zipWith hsized hzip⟩
    . intro p x y hvalues
      apply (h p x y hvalues).1
    . intro p x y hvalues
      apply (h p x y hvalues).2

end

def numbers (n : Int) : Grid Int where
  width := 3
  height := 4
  cells := List.replicate 12 n
  length_cells := by simp
  area_lt := by decide

theorem combinators_agree_iff_bits
    : ∃ zipped, zipWith (numbers 1) (numbers 0) (· + ·) = .ok zipped ∧
        zipped.cell ⟨2, 1⟩ = some 1 := by
  rcases combinators_agree_iff (a := numbers 1) (b := numbers 0) ⟨rfl, rfl⟩ (· + ·) 0
    with ⟨zipped, marked, zippedMark, hzip, -, -, hagree⟩
  have hbits : ∀ p x y, ValuesAt (numbers 1) (numbers 0) p x y →
      throughBool (x + y) = x + y ∧
      throughBool (if toBool y then (0 : Int) else x) = if toBool y then (0 : Int) else x := by
    intro p x y h
    have hx : x = 1 := List.eq_of_mem_replicate (Grid.mem_of_cell h.1)
    have hy : y = 0 := List.eq_of_mem_replicate (Grid.mem_of_cell h.2)
    subst hx
    subst hy
    decide
  exact ⟨zipped, hzip, (hagree.mpr hbits).1 ⟨2, 1⟩ 1 0 ⟨by decide, by decide⟩⟩

theorem not_zipWith_pointwise
    : ¬ ∀ (a b : Grid Int) (f : Int → Int → Int), b.Sized a.width a.height →
        ∃ zipped, zipWith a b f = .ok zipped ∧
          ∀ p x y, ValuesAt a b p x y → zipped.cell p = some (f x y) := by
  intro h
  rcases h (numbers 5) (numbers 2) (· + ·) ⟨rfl, rfl⟩ with ⟨zipped, hzip, hcell⟩
  have hvalues : ValuesAt (numbers 5) (numbers 2) ⟨2, 1⟩ 5 2 := ⟨by decide, by decide⟩
  have hiff := zipWith_pointwise_iff (a := numbers 5) (b := numbers 2) ⟨rfl, rfl⟩ hzip
  have hkept := hiff.mp hcell ⟨2, 1⟩ 5 2 hvalues
  revert hkept
  decide

end Sc2.Utils
