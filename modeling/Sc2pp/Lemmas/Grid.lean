import Sc2pp.Impl.Grid
import Sc2pp.Util.Canvas
import Mathlib.Tactic.Linarith

/-!
This module connects grids to canvases: a grid shows a canvas of the points inside its size, and a
write inside the grid paints exactly one point of it. Outside of its size a grid shows nothing.
-/

namespace Sc2.Utils

theorem mem_pixels {width height : Int} {p : Point2DI}
    : p ∈ pixels width height ↔ (0 ≤ p.x ∧ p.x < width) ∧ (0 ≤ p.y ∧ p.y < height) := by
  simp only [pixels, List.mem_flatMap, List.mem_map, List.mem_range]
  constructor
  . intro h
    rcases h with ⟨y, hy, x, hx, rfl⟩
    simp only
    omega
  . intro h
    rcases h with ⟨hx, hy⟩
    refine ⟨p.y.toNat, by omega, p.x.toNat, by omega, ?_⟩
    cases p
    simp only [Point2DI.mk.injEq]
    simp only at hx hy
    omega

theorem length_pixels (width height : Int)
    : (pixels width height).length = width.toNat * height.toNat := by
  simp [pixels, Nat.mul_comm]

theorem linear_bounds {width height : Int} {p : Point2DI} (h : p ∈ pixels width height)
    : 0 ≤ p.y * width + p.x ∧ p.y * width + p.x < width * height := by
  rcases mem_pixels.mp h with ⟨⟨hx0, hxw⟩, ⟨hy0, hyh⟩⟩
  have hw : 0 ≤ width := by omega
  have hrow : 0 ≤ p.y * width := Int.mul_nonneg hy0 hw
  have hrows : (p.y + 1) * width ≤ height * width := Int.mul_le_mul_of_nonneg_right (by omega) hw
  constructor
  . omega
  . calc p.y * width + p.x
      _ < p.y * width + width := by omega
      _ = (p.y + 1) * width := by rw [Int.add_mul, Int.one_mul]
      _ ≤ height * width := hrows
      _ = width * height := Int.mul_comm _ _

theorem exists_pixel {width height : Int} {i : Nat} (hi : i < width * height) (hwidth : 0 ≤ width)
    : ∃ p ∈ pixels width height, p.x + p.y * width = i := by
  have hpos : 0 < width := by
    by_contra h
    have hzero : width = 0 := by omega
    rw [hzero, Int.zero_mul] at hi
    omega
  refine ⟨⟨i % width, i / width⟩, ?_, Int.emod_add_ediv_mul i width⟩
  rw [mem_pixels]
  refine ⟨⟨Int.emod_nonneg _ (by omega), Int.emod_lt_of_pos _ hpos⟩, ?_, ?_⟩
  . apply Int.ediv_nonneg (by omega) hwidth
  . rw [Int.mul_comm] at hi
    apply Int.ediv_lt_of_lt_mul hpos hi

namespace Grid

variable {T S : Type}

def Inside (grid : Grid T) (p : Point2DI) : Prop :=
  (0 ≤ p.x ∧ p.x < grid.width) ∧ (0 ≤ p.y ∧ p.y < grid.height)

instance (grid : Grid T) (p : Point2DI) : Decidable (grid.Inside p) :=
  inferInstanceAs (Decidable ((0 ≤ p.x ∧ p.x < grid.width) ∧ (0 ≤ p.y ∧ p.y < grid.height)))

def cell (grid : Grid T) (p : Point2DI) : Option T :=
  if grid.Inside p then grid.cells[flatIndex grid.width p]? else none

def Sized (width height : Int) (grid : Grid T) : Prop :=
  grid.width = width ∧ grid.height = height

theorem length_cells_eq {grid grid' : Grid T} (h : grid'.Sized grid.width grid.height)
    : grid'.cells.length = grid.cells.length := by
  have hlen := grid.length_cells
  have hlen' := grid'.length_cells
  rw [h.1, h.2] at hlen'
  omega

theorem eq_of_cells {grid grid' : Grid T} (hsized : grid'.Sized grid.width grid.height)
    (hcells : ∀ i : Nat, grid'.cells[i]? = grid.cells[i]?) : grid' = grid := by
  have hlist := List.ext_getElem? hcells
  cases grid
  cases grid'
  simp only [Sized] at hsized
  simp only [mk.injEq]
  exact ⟨hsized.1, hsized.2, hlist⟩

theorem mem_pixels_iff_inside {grid : Grid T} {p : Point2DI}
    : p ∈ pixels grid.width grid.height ↔ grid.Inside p := by
  apply mem_pixels

theorem inside_iff_of_sized {grid : Grid T} {grid' : Grid S} {width height : Int}
    (h : grid.Sized width height) (h' : grid'.Sized width height) (p : Point2DI)
    : grid.Inside p ↔ grid'.Inside p := by
  simp only [Inside, h.1, h.2, h'.1, h'.2]

theorem linear_lt_area {grid : Grid T} {p : Point2DI} (h : grid.Inside p)
    : 0 ≤ p.y * grid.width + p.x ∧ p.y * grid.width + p.x < grid.width * grid.height := by
  apply linear_bounds (mem_pixels_iff_inside.mpr h)

theorem flatIndex_of_inside {grid : Grid T} {p : Point2DI} (h : grid.Inside p)
    : (flatIndex grid.width p : Int) = p.y * grid.width + p.x := by
  rcases linear_lt_area h with ⟨hnonneg, hlt⟩
  have harea := grid.area_lt
  unfold flatIndex sizeT
  rw [Int.emod_eq_of_lt hnonneg (by omega)]
  apply Int.toNat_of_nonneg hnonneg

theorem flatIndex_lt {grid : Grid T} {p : Point2DI} (h : grid.Inside p)
    : flatIndex grid.width p < grid.cells.length := by
  have hidx := flatIndex_of_inside h
  have hlt := (linear_lt_area h).2
  have hlen := grid.length_cells
  omega

theorem flatIndex_inj {grid : Grid T} {p q : Point2DI} (hp : grid.Inside p) (hq : grid.Inside q)
    (h : flatIndex grid.width p = flatIndex grid.width q) : p = q := by
  have hlin : p.y * grid.width + p.x = q.y * grid.width + q.x := by
    rw [← flatIndex_of_inside hp, ← flatIndex_of_inside hq, h]
  rcases hp with ⟨⟨hpx0, hpx⟩, -⟩
  rcases hq with ⟨⟨hqx0, hqx⟩, -⟩
  have hx : p.x = q.x := by
    have hmod := congrArg (· % grid.width) hlin
    simpa [Int.emod_eq_of_lt hpx0 hpx, Int.emod_eq_of_lt hqx0 hqx] using hmod
  have hy : p.y = q.y := by
    have hw : grid.width ≠ 0 := by omega
    apply Int.eq_of_mul_eq_mul_right hw (by omega)
  cases p
  cases q
  simp_all

theorem exists_flatIndex {grid : Grid T} {i : Nat} (h : i < grid.cells.length) (hw : 0 ≤ grid.width)
    : ∃ p, grid.Inside p ∧ flatIndex grid.width p = i := by
  have hlen := grid.length_cells
  have harea : (i : Int) < grid.width * grid.height := by omega
  rcases exists_pixel harea hw with ⟨p, hp, hindex⟩
  rw [mem_pixels_iff_inside] at hp
  have hflat := flatIndex_of_inside hp
  exact ⟨p, hp, by omega⟩

theorem cell_of_inside {grid : Grid T} {p : Point2DI} (h : grid.Inside p)
    : grid.cell p = grid.cells[flatIndex grid.width p]? := by
  simp [cell, h]

theorem cell_eq_none_iff {grid : Grid T} {p : Point2DI} : grid.cell p = none ↔ ¬ grid.Inside p := by
  unfold cell
  split
  . next h => simp [h, flatIndex_lt h]
  . next h => simp [h]

theorem mem_of_cell {grid : Grid T} {p : Point2DI} {v : T} (h : grid.cell p = some v)
    : v ∈ grid.cells := by
  unfold cell at h
  split at h
  . apply List.mem_of_getElem? h
  . cases h

theorem getAt_eq_ok {grid : Grid T} {p : Point2DI} (h : grid.Inside p) {v : T}
    : grid.getAt p = .ok v ↔ grid.cell p = some v := by
  simp [getAt, cell, h, Outcome.elementAt_eq_ok]

theorem exists_cell {grid : Grid T} {p : Point2DI} (h : grid.Inside p)
    : ∃ v, grid.cell p = some v ∧ grid.getAt p = .ok v := by
  rcases Option.ne_none_iff_exists'.mp (mt cell_eq_none_iff.mp (not_not.mpr h)) with ⟨v, hv⟩
  exact ⟨v, hv, (getAt_eq_ok h).mpr hv⟩

theorem setIndex_of_lt {grid : Grid T} {idx : Nat} (h : idx < grid.cells.length) (v : T)
    : ∃ grid', grid.setIndex idx v = .ok grid' ∧ grid'.Sized grid.width grid.height ∧
        grid'.cells = grid.cells.set idx v := by
  unfold setIndex
  rw [if_pos h]
  exact ⟨_, rfl, ⟨rfl, rfl⟩, rfl⟩

theorem setAt_cases (grid : Grid T) (p : Point2DI) (v : T)
    : (∃ grid', grid.setAt p v = .ok grid' ∧ grid'.Sized grid.width grid.height) ∨
      grid.setAt p v = .error .outOfRange := by
  unfold setAt
  by_cases hlt : flatIndex grid.width p < grid.cells.length
  . rcases setIndex_of_lt hlt v with ⟨grid', hset, hsized, -⟩
    exact .inl ⟨grid', hset, hsized⟩
  . unfold setIndex
    rw [if_neg hlt]
    exact .inr rfl

theorem setAt_of_inside {grid : Grid T} {p : Point2DI} (h : grid.Inside p) (v : T)
    : ∃ grid', grid.setAt p v = .ok grid' ∧ grid'.Sized grid.width grid.height ∧
        grid'.cell = Function.update grid.cell p (some v) := by
  have hlt := flatIndex_lt h
  rcases setIndex_of_lt hlt v with ⟨grid', hset, hsized, hcells⟩
  refine ⟨grid', hset, hsized, ?_⟩
  have hinside : ∀ q, grid'.Inside q ↔ grid.Inside q := inside_iff_of_sized hsized ⟨rfl, rfl⟩
  funext q
  by_cases hpq : q = p
  . subst hpq
    rw [Function.update_self, cell_of_inside ((hinside q).mpr h), hcells, hsized.1]
    apply List.getElem?_set_self hlt
  . rw [Function.update_of_ne hpq]
    by_cases hq : grid.Inside q
    . have hne : flatIndex grid.width p ≠ flatIndex grid.width q :=
        fun heq => hpq (flatIndex_inj h hq heq).symm
      rw [cell_of_inside ((hinside q).mpr hq), cell_of_inside hq, hcells, hsized.1]
      apply List.getElem?_set_ne hne
    . rw [cell_eq_none_iff.mpr hq, cell_eq_none_iff.mpr (mt (hinside q).mp hq)]

theorem cell_new {width height : Int} {v : T} {grid : Grid T} (h : new width height v = .ok grid)
    : grid.Sized width height ∧ ∀ p, grid.Inside p → grid.cell p = some v := by
  unfold new at h
  split at h
  . cases h
  . split at h
    . cases h
    . simp only [Outcome.pure_eq_ok, Except.ok.injEq] at h
      subst h
      refine ⟨⟨rfl, rfl⟩, ?_⟩
      intro p hp
      rcases exists_cell hp with ⟨u, hu, -⟩
      rw [hu, List.eq_of_mem_replicate (mem_of_cell hu)]

theorem new_exists (grid : Grid S) (v : T) : ∃ grid', new grid.width grid.height v = .ok grid' := by
  have hlen := grid.length_cells
  have harea := grid.area_lt
  unfold new
  rw [dif_neg (by omega), dif_neg (by omega)]
  exact ⟨_, rfl⟩

open Canvas in
theorem paints_setAt {ι : Type} {width height : Int} {f : Grid T → ι → Outcome (Grid T)}
    {region : ι → List Point2DI} {colour : Point2DI → Option T} {i : ι} {p : Point2DI} {v : T}
    (hf : ∀ grid : Grid T, f grid i = grid.setAt p v) (hregion : region i = [p])
    (hcolour : colour p = some v) (hp : p ∈ pixels width height)
    : Paints (Sized width height) cell f region colour i := by
  intro grid hgrid
  have hinside : grid.Inside p := by
    rw [← mem_pixels_iff_inside, hgrid.1, hgrid.2]
    exact hp
  rcases setAt_of_inside hinside v with ⟨grid', hset, hsized, hcell⟩
  refine ⟨grid', by rw [hf, hset], ?_, ?_⟩
  . rwa [hgrid.1, hgrid.2] at hsized
  . rw [hcell, hregion, paint_singleton, hcolour]

end Grid

end Sc2.Utils
