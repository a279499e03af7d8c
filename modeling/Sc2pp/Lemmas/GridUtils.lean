import Sc2pp.Impl.GridUtils
import Sc2pp.Lemmas.Footprints
import Sc2pp.Lemmas.Grid

/-!
This module contains what the algorithms on grids do to the cells: `unite` finds the points of two
grids, and applying the footprint of a unit paints the tiles the unit stands on.
-/

namespace Sc2.Utils

open Canvas

def unitTiles (u : Unit) : List Point2DI :=
  (getFootprint u.unitType).tilesAt (tilePos (.ofPoint3D u.pos))

def unitesAt {A B : Type} (a : Grid A) (b : Grid B) (pred : A → B → Bool) (p : Point2DI) : Bool :=
  match a.cell p, b.cell p with
  | some x, some y => pred x y
  | _, _ => false

theorem unite_eq_ok {A B : Type} {a : Grid A} {b : Grid B} (hsized : b.Sized a.width a.height)
    (pred : A → B → Bool)
    : unite a b pred = .ok ((pixels a.width a.height).filter (unitesAt a b pred)) := by
  unfold unite
  apply Outcome.filterM_eq_ok
  intro p hp
  rw [Grid.mem_pixels_iff_inside] at hp
  rcases Grid.exists_cell hp with ⟨x, hx, hgetx⟩
  rcases Grid.exists_cell ((Grid.inside_iff_of_sized hsized ⟨rfl, rfl⟩ p).mpr hp)
    with ⟨y, hy, hgety⟩
  simp [hgetx, hgety, unitesAt, hx, hy]

theorem paints_unit {T : Type} {width height : Int} {value : T} {u : Unit}
    (h : ∀ p ∈ unitTiles u, p ∈ pixels width height)
    : Paints (Grid.Sized width height) Grid.cell
        (fun g u => applyFootprint g (tilePos (.ofPoint3D u.pos)) (getFootprint u.unitType) value)
        unitTiles (fun _ => some value) u := by
  intro grid hgrid
  let center := tilePos (.ofPoint3D u.pos)
  have htile : ∀ delta ∈ (getFootprint u.unitType).deltas,
      Paints (Grid.Sized width height) Grid.cell
        (fun (g : Grid T) delta => g.setAt (center.add delta) value)
        (fun delta => [center.add delta]) (fun _ => some value) delta := by
    intro delta hdelta
    apply Grid.paints_setAt (p := center.add delta) (v := value)
    . intro grid
      rfl
    . rfl
    . rfl
    . apply h _ (List.mem_map_of_mem hdelta)
  rcases Paints.foldlM htile grid hgrid with ⟨grid', hfold, hsized, hcell⟩
  refine ⟨grid', hfold, hsized, ?_⟩
  rw [hcell, unitTiles, Footprint.tilesAt, List.map_eq_flatMap]

section

variable {T : Type} {g : Grid T} {center : Point2DI} {footprint : Footprint} {value : T}

-- A tile outside the grid has an index too, it may be the index of a cell.
theorem applyFootprint_of_lt
    (h : ∀ t ∈ footprint.tilesAt center, Grid.flatIndex g.width t < g.cells.length) (value : T)
    : ∃ g', applyFootprint g center footprint value = .ok g' ∧ g'.Sized g.width g.height ∧
        ∀ i, g'.cells[i]?
            =
          if i ∈ (footprint.tilesAt center).map (Grid.flatIndex g.width) then
            some value
          else
            g.cells[i]? := by
  have htile : ∀ delta ∈ footprint.deltas,
      Paints (Grid.Sized g.width g.height) (fun (g : Grid T) i => g.cells[i]?)
        (fun g delta => g.setAt (center.add delta) value)
        (fun delta => [Grid.flatIndex g.width (center.add delta)]) (fun _ => some value) delta := by
    intro delta hdelta g₁ hsized
    have hlt := h _ (List.mem_map_of_mem hdelta)
    rw [← Grid.length_cells_eq hsized] at hlt
    rcases Grid.setIndex_of_lt hlt value with ⟨g₂, hset, hsized', hcells⟩
    rw [← hsized.1] at hset
    refine ⟨g₂, hset, by rwa [hsized.1, hsized.2] at hsized', ?_⟩
    funext i
    simp only [hcells, paint_singleton]
    by_cases hi : i = Grid.flatIndex g.width (center.add delta)
    . subst hi
      rw [Function.update_self]
      apply List.getElem?_set_self hlt
    . rw [Function.update_of_ne hi]
      apply List.getElem?_set_ne (Ne.symm hi)
  rcases Paints.foldlM htile g ⟨rfl, rfl⟩ with ⟨g', hfold, hsized, hcells⟩
  refine ⟨g', hfold, hsized, ?_⟩
  intro i
  rw [congrFun hcells i, paint_apply, ← List.map_eq_flatMap, Footprint.tilesAt, List.map_map]
  rfl

theorem applyFootprint_of_le {t : Point2DI} (ht : t ∈ footprint.tilesAt center)
    (h : g.cells.length ≤ Grid.flatIndex g.width t) (value : T)
    : applyFootprint g center footprint value = .error .outOfRange := by
  rcases List.mem_map.mp ht with ⟨last, hlast, rfl⟩
  have hset : ∀ delta ∈ footprint.deltas, ∀ g₁ : Grid T, g₁.Sized g.width g.height →
      (∃ g₂, g₁.setAt (center.add delta) value = .ok g₂ ∧ g₂.Sized g.width g.height) ∨
      g₁.setAt (center.add delta) value = .error .outOfRange := by
    intro delta _ g₁ hsized
    rw [← hsized.1, ← hsized.2]
    apply Grid.setAt_cases
  have hfail : ∀ g₁ : Grid T, g₁.Sized g.width g.height →
      g₁.setAt (center.add last) value = .error .outOfRange := by
    intro g₁ hsized
    rw [← hsized.1, ← Grid.length_cells_eq hsized] at h
    unfold Grid.setAt Grid.setIndex
    rw [if_neg (by omega)]
    rfl
  apply Outcome.foldlM_eq_error hset hlast hfail ⟨rfl, rfl⟩

theorem cell_applyFootprint
    (h : ∀ t ∈ footprint.tilesAt center, Grid.flatIndex g.width t < g.cells.length) (value : T)
    : ∃ g', applyFootprint g center footprint value = .ok g' ∧ g'.Sized g.width g.height ∧
        ∀ p, g'.cell p
            =
          if g.Inside p ∧
              Grid.flatIndex g.width p ∈ (footprint.tilesAt center).map (Grid.flatIndex g.width) then
            some value
          else
            g.cell p := by
  rcases applyFootprint_of_lt h value with ⟨g', happly, hsized, hcells⟩
  refine ⟨g', happly, hsized, ?_⟩
  intro p
  have hinside : g'.Inside p ↔ g.Inside p := Grid.inside_iff_of_sized hsized ⟨rfl, rfl⟩ p
  by_cases hp : g.Inside p
  . rw [Grid.cell_of_inside (hinside.mpr hp), Grid.cell_of_inside hp, hsized.1, hcells]
    simp only [hp, true_and]
  . rw [Grid.cell_eq_none_iff.mpr (mt hinside.mp hp), Grid.cell_eq_none_iff.mpr hp]
    simp only [hp, false_and, if_false]

def AppliesFootprint (g : Grid T) (center : Point2DI) (footprint : Footprint) (value : T) : Prop :=
  ∃ g', applyFootprint g center footprint value = .ok g' ∧ g'.Sized g.width g.height ∧
    ∀ p, g'.cell p
        =
      if g.Inside p ∧ p ∈ footprint.tilesAt center then some value else g.cell p

-- Every tile hits a cell that may hold the value afterwards.
def HitsAllowed (g : Grid T) (center : Point2DI) (footprint : Footprint) (value : T) : Prop :=
  ∀ t ∈ footprint.tilesAt center,
    ∃ q, g.Inside q ∧ Grid.flatIndex g.width q = Grid.flatIndex g.width t ∧
      (q ∈ footprint.tilesAt center ∨ g.cell q = some value)

theorem index_lt_of_hitsAllowed (h : HitsAllowed g center footprint value) {t : Point2DI}
    (ht : t ∈ footprint.tilesAt center) : Grid.flatIndex g.width t < g.cells.length := by
  rcases h t ht with ⟨q, hq, hindex, -⟩
  rw [← hindex]
  apply Grid.flatIndex_lt hq

theorem cell_of_hitsAllowed (h : HitsAllowed g center footprint value) {p : Point2DI}
    (hp : g.Inside p)
    (hwritten : Grid.flatIndex g.width p
      ∈ (footprint.tilesAt center).map (Grid.flatIndex g.width))
    : p ∈ footprint.tilesAt center ∨ g.cell p = some value := by
  rcases List.mem_map.mp hwritten with ⟨t, ht, hindex⟩
  rcases h t ht with ⟨q, hq, hindex', hallowed⟩
  have hqp : q = p := Grid.flatIndex_inj hq hp (hindex'.trans hindex)
  rwa [hqp] at hallowed

theorem appliesFootprint_of_hitsAllowed (h : HitsAllowed g center footprint value)
    : AppliesFootprint g center footprint value := by
  rcases cell_applyFootprint (fun t ht => index_lt_of_hitsAllowed h ht) value
    with ⟨g', happly, hsized, hcell⟩
  refine ⟨g', happly, hsized, ?_⟩
  intro p
  rw [hcell]
  by_cases htile : g.Inside p ∧ p ∈ footprint.tilesAt center
  . rw [if_pos ⟨htile.1, List.mem_map_of_mem htile.2⟩, if_pos htile]
  . rw [if_neg htile]
    split
    . next hwritten =>
      rcases cell_of_hitsAllowed h hwritten.1 hwritten.2 with hmem | hvalue
      . exact absurd ⟨hwritten.1, hmem⟩ htile
      . exact hvalue.symm
    . rfl

theorem appliesFootprint_of_inside (h : ∀ t ∈ footprint.tilesAt center, g.Inside t) (value : T)
    : AppliesFootprint g center footprint value := by
  apply appliesFootprint_of_hitsAllowed
  intro t ht
  exact ⟨t, h t ht, rfl, .inl ht⟩

theorem hitsAllowed_of_appliesFootprint (hwidth : 0 ≤ g.width)
    (h : AppliesFootprint g center footprint value) : HitsAllowed g center footprint value := by
  rcases h with ⟨g', happly, -, hframe⟩
  have hindices : ∀ t ∈ footprint.tilesAt center,
      Grid.flatIndex g.width t < g.cells.length := by
    intro t ht
    by_contra hle
    rw [applyFootprint_of_le ht (Nat.not_lt.mp hle)] at happly
    cases happly
  rcases cell_applyFootprint hindices value with ⟨g'', happly', -, hcell⟩
  rw [happly, Except.ok.injEq] at happly'
  subst happly'
  intro t ht
  rcases Grid.exists_flatIndex (hindices t ht) hwidth with ⟨q, hq, hindex⟩
  refine ⟨q, hq, hindex, ?_⟩
  have hwritten := hcell q
  rw [if_pos ⟨hq, by rw [hindex]; exact List.mem_map_of_mem ht⟩, hframe] at hwritten
  split at hwritten
  . next htile => exact .inl htile.2
  . exact .inr hwritten

theorem appliesFootprint_iff (hcenter : g.Inside center) (footprint : Footprint) (value : T)
    : AppliesFootprint g center footprint value
        ↔
      ∀ t ∈ footprint.tilesAt center,
        ∃ q, g.Inside q ∧ Grid.flatIndex g.width q = Grid.flatIndex g.width t ∧
          (q ∈ footprint.tilesAt center ∨ g.cell q = some value) := by
  have hwidth : 0 ≤ g.width := by
    unfold Grid.Inside at hcenter
    omega
  constructor
  . intro h
    apply hitsAllowed_of_appliesFootprint hwidth h
  . intro h
    apply appliesFootprint_of_hitsAllowed h

end

def emptyMap : Grid Char where
  width := 5
  height := 4
  cells := List.replicate 20 ' '
  length_cells := by decide
  area_lt := by decide

theorem appliesFootprint_middle
    : AppliesFootprint emptyMap ⟨3, 2⟩ (getFootprint .neutralMineralField) '*' := by
  rw [appliesFootprint_iff (by decide)]
  intro t ht
  refine ⟨t, ?_, rfl, .inl ht⟩
  revert t
  decide +kernel

theorem not_appliesFootprint_edge
    : ¬ ∀ (g : Grid Char) (center : Point2DI) (footprint : Footprint) (value : Char),
        g.Inside center → AppliesFootprint g center footprint value := by
  intro h
  rcases h emptyMap ⟨0, 1⟩ (getFootprint .neutralMineralField) '*' (by decide)
    with ⟨g', happly, -, hframe⟩
  have hindices : ∀ t ∈ (getFootprint .neutralMineralField).tilesAt ⟨0, 1⟩,
      Grid.flatIndex emptyMap.width t < emptyMap.cells.length := by
    decide +kernel
  rcases cell_applyFootprint hindices '*' with ⟨g'', happly', -, hcell⟩
  rw [happly, Except.ok.injEq] at happly'
  subst happly'
  have hkept : g'.cell ⟨4, 0⟩ = some ' ' := by
    rw [hframe, if_neg (by decide +kernel)]
    decide
  have hwritten : g'.cell ⟨4, 0⟩ = some '*' := by
    rw [hcell, if_pos (by decide +kernel)]
  rw [hkept] at hwritten
  cases hwritten

section

variable {T : Type} {W H : Nat} {pattern : String} {c : Point2DI}

-- The tiles of a picture whose point `c` is put on `center`.
def Pictured (W H : Nat) (pattern : String) (c center p : Point2DI) : Prop :=
  ∃ q ∈ pixels W H, charAt W pattern q ≠ ' ' ∧
    p = ⟨center.x + (q.x - c.x), center.y + (q.y - c.y)⟩

instance (W H : Nat) (pattern : String) (c center p : Point2DI)
    : Decidable (Pictured W H pattern c center p) :=
  inferInstanceAs (Decidable (∃ q ∈ pixels W H, charAt W pattern q ≠ ' ' ∧
    p = ⟨center.x + (q.x - c.x), center.y + (q.y - c.y)⟩))

theorem mem_tilesAt_makeFootprint (hsize : W * H ≤ 25) (hc : c ∈ pixels W H)
    (hunique : ∀ p ∈ pixels W H, charAt W pattern p = 'c' ↔ p = c) {center p : Point2DI}
    : p ∈ (makeFootprint W H hsize pattern).tilesAt center
        ↔
      Pictured W H pattern c center p := by
  simp only [Footprint.tilesAt, List.mem_map, mem_deltas_makeFootprint hsize hc hunique, Pictured]
  constructor
  . intro hp
    rcases hp with ⟨delta, ⟨q, hq, hchar, rfl⟩, rfl⟩
    exact ⟨q, hq, hchar, rfl⟩
  . intro hp
    rcases hp with ⟨q, hq, hchar, rfl⟩
    exact ⟨_, ⟨q, hq, hchar, rfl⟩, rfl⟩

theorem applyFootprint_makeFootprint (hsize : W * H ≤ 25) (hc : c ∈ pixels W H)
    (hunique : ∀ p ∈ pixels W H, charAt W pattern p = 'c' ↔ p = c)
    {g : Grid T} {center : Point2DI}
    (hinside : ∀ p, Pictured W H pattern c center p → g.Inside p) (value : T)
    : ∃ g', applyFootprint g center (makeFootprint W H hsize pattern) value = .ok g' ∧
        g'.Sized g.width g.height ∧
        ∀ p, g'.cell p = if Pictured W H pattern c center p then some value else g.cell p := by
  have htiles : ∀ t ∈ (makeFootprint W H hsize pattern).tilesAt center, g.Inside t := by
    intro t ht
    apply hinside t ((mem_tilesAt_makeFootprint hsize hc hunique).mp ht)
  rcases appliesFootprint_of_inside htiles value with ⟨g', happly, hsized, hcell⟩
  refine ⟨g', happly, hsized, ?_⟩
  intro p
  rw [hcell]
  simp only [mem_tilesAt_makeFootprint hsize hc hunique]
  by_cases hp : Pictured W H pattern c center p
  . rw [if_pos ⟨hinside p hp, hp⟩, if_pos hp]
  . rw [if_neg (fun h => hp h.2), if_neg hp]

end

theorem applyFootprint_makeFootprint_corners
    : ∃ g', applyFootprint emptyMap ⟨2, 2⟩ (makeFootprint 3 2 (by decide) "# # c ") '*' = .ok g' ∧
        g'.cell ⟨1, 1⟩ = some '*' ∧ g'.cell ⟨2, 1⟩ = some ' ' ∧ g'.cell ⟨2, 2⟩ = some '*' := by
  have hunique : ∀ p ∈ pixels (3 : Nat) (2 : Nat), charAt 3 "# # c " p = 'c' ↔ p = ⟨1, 1⟩ := by
    decide
  have hinside : ∀ p, Pictured 3 2 "# # c " ⟨1, 1⟩ ⟨2, 2⟩ p → emptyMap.Inside p := by
    intro p hp
    rcases hp with ⟨q, hq, -, rfl⟩
    revert q
    decide
  rcases applyFootprint_makeFootprint (by decide) (by decide) hunique hinside '*'
    with ⟨g', happly, -, hcell⟩
  refine ⟨g', happly, ?_, ?_, ?_⟩
  . rw [hcell]
    decide
  . rw [hcell]
    decide
  . rw [hcell]
    decide

end Sc2.Utils
