import Sc2pp.Impl.BuildPos

/-!
This module contains what the search for a building position finds when the answers are those of one
predicate. Every tile of the disc can be reached from the tile of its centre: towards the centre a
step in one coordinate never leaves the disc, and the tiles around the centre are linked with it.
-/

namespace Sc2

open Utils Search

namespace BuildPos

def neighbours (center : Point2D) (radius : Rat) (pixel : Point2DI) : List Point2DI :=
  (Wave.variants pixel).filter fun v => !tooFar center radius v

def Placeable (placement : AbilityId → Point2D → Bool) (building : AbilityId) (pixel : Point2DI)
    : Prop :=
  placement building pixel.toPoint2D = true

variable {center : Point2D} {radius : Rat}

theorem tooFar_eq_false_iff {v : Point2DI}
    : tooFar center radius v = false
        ↔
      ((v.x : Rat) - center.x) ^ 2 + ((v.y : Rat) - center.y) ^ 2 ≤ (radius + 3) ^ 2 := by
  unfold tooFar
  rw [decide_eq_false_iff_not, not_lt, sq, sq, sq]
  rfl

theorem tilePos_bounds (center : Point2D)
    : (((tilePos center).x : Rat) ≤ center.x ∧ center.x < (tilePos center).x + 1) ∧
      (((tilePos center).y : Rat) ≤ center.y ∧ center.y < (tilePos center).y + 1) := by
  have hx := Rat.lt_floor_add_one center.x
  have hy := Rat.lt_floor_add_one center.y
  push_cast at hx hy
  exact ⟨⟨Rat.floor_le center.x, hx⟩, ⟨Rat.floor_le center.y, hy⟩⟩

theorem not_tooFar_tilePos (h : 0 ≤ radius) : tooFar center radius (tilePos center) = false := by
  rcases tilePos_bounds center with ⟨⟨hx, hx'⟩, ⟨hy, hy'⟩⟩
  rw [tooFar_eq_false_iff]
  nlinarith

theorem exists_nearer {z s : Int} {c : Rat} (hs : (s : Rat) ≤ c) (hs' : c < s + 1)
    (h : z < s ∨ s + 1 < z)
    : ∃ z', (z' = z + 1 ∨ z' = z - 1) ∧ ((z' : Rat) - c) ^ 2 ≤ ((z : Rat) - c) ^ 2 ∧
        (z' - s).natAbs < (z - s).natAbs := by
  rcases h with h | h
  . refine ⟨z + 1, .inl rfl, ?_, by omega⟩
    have hcast : (z : Rat) + 1 ≤ s := by exact_mod_cast h
    push_cast
    nlinarith
  . refine ⟨z - 1, .inr rfl, ?_, by omega⟩
    have hcast : (s : Rat) + 2 ≤ z := by exact_mod_cast (show s + 2 ≤ z by omega)
    push_cast
    nlinarith

def steps (center : Point2D) (v : Point2DI) : Nat :=
  (v.x - (tilePos center).x).natAbs + (v.y - (tilePos center).y).natAbs

theorem exists_predecessor (hradius : 0 ≤ radius) {v : Point2DI}
    (hv : tooFar center radius v = false) (hne : v ≠ tilePos center)
    : ∃ u, tooFar center radius u = false ∧ v ∈ Wave.variants u ∧
        steps center u < steps center v := by
  rcases tilePos_bounds center with ⟨⟨hx, hx'⟩, ⟨hy, hy'⟩⟩
  by_cases hfarx : v.x < (tilePos center).x ∨ (tilePos center).x + 1 < v.x
  . rcases exists_nearer hx hx' hfarx with ⟨x, hstep, hsq, hlt⟩
    refine ⟨⟨x, v.y⟩, ?_, ?_, ?_⟩
    . rw [tooFar_eq_false_iff] at hv ⊢
      simp only
      linarith
    . cases v
      simp only [Wave.variants, List.mem_cons, List.not_mem_nil, or_false, Point2DI.mk.injEq,
        and_true]
      simp only at hstep
      omega
    . simp only [steps]
      omega
  . by_cases hfary : v.y < (tilePos center).y ∨ (tilePos center).y + 1 < v.y
    . rcases exists_nearer hy hy' hfary with ⟨y, hstep, hsq, hlt⟩
      refine ⟨⟨v.x, y⟩, ?_, ?_, ?_⟩
      . rw [tooFar_eq_false_iff] at hv ⊢
        simp only
        linarith
      . cases v
        simp only [Wave.variants, List.mem_cons, List.not_mem_nil, or_false, Point2DI.mk.injEq,
          true_and]
        simp only at hstep
        omega
      . simp only [steps]
        omega
    . refine ⟨tilePos center, not_tooFar_tilePos hradius, ?_, ?_⟩
      . cases v
        simp only [Wave.variants, List.mem_cons, List.not_mem_nil, or_false, Point2DI.mk.injEq]
        simp only [ne_eq] at hne hfarx hfary
        generalize tilePos center = tile at *
        cases tile
        simp only [Point2DI.mk.injEq] at *
        omega
      . simp only [steps]
        generalize tilePos center = tile at *
        cases v
        cases tile
        simp only [ne_eq, Point2DI.mk.injEq] at *
        omega

theorem walk_of_not_tooFar (hradius : 0 ≤ radius) {v : Point2DI}
    (hv : tooFar center radius v = false)
    : ∃ n, Walk (neighbours center radius) (tilePos center) n v := by
  generalize hsteps : steps center v = k
  induction k using Nat.strong_induction_on generalizing v with
  | _ k ih =>
    by_cases hstart : v = tilePos center
    . rw [hstart]
      exact ⟨0, .refl⟩
    . rcases exists_predecessor hradius hv hstart with ⟨u, hu, hmem, hlt⟩
      rcases ih (steps center u) (by omega) hu rfl with ⟨n, hwalk⟩
      refine ⟨n + 1, hwalk.step ?_⟩
      unfold neighbours
      rw [List.mem_filter, hv]
      exact ⟨hmem, rfl⟩

theorem not_tooFar_of_walk (hradius : 0 ≤ radius) {n : Nat} {v : Point2DI}
    (h : Walk (neighbours center radius) (tilePos center) n v) : tooFar center radius v = false := by
  cases h with
  | refl => apply not_tooFar_tilePos hradius
  | step _ hmem =>
    unfold neighbours at hmem
    simpa using (List.mem_filter.mp hmem).2

variable {placement : AbilityId → Point2D → Bool} {building : AbilityId}

theorem flooded_next {f f' : Frontier Point2DI}
    (hcond : (!f.queue.isEmpty) = true)
    (hnext : next center radius f (ask (m := Id) placement building f) = .inr f')
    (h : Flooded (neighbours center radius) (tilePos center) (Placeable placement building) f)
    : Flooded (neighbours center radius) (tilePos center) (Placeable placement building) f' := by
  unfold next ask at hnext
  cases hqueue : f.queue with
  | nil => simp [hqueue] at hcond
  | cons pixel fringe =>
    simp only [hqueue] at hnext
    split at hnext
    . cases hnext
    . next hplace =>
      rw [Sum.inr.injEq, foldl_visit] at hnext
      subst hnext
      apply h.advance hqueue hplace

theorem head_of_next {f : Frontier Point2DI} {pixel : Point2DI}
    (hnext : next center radius f (ask (m := Id) placement building f) = .inl pixel)
    : pixel ∈ f.queue ∧ Placeable placement building pixel := by
  unfold next ask at hnext
  cases hqueue : f.queue with
  | nil =>
    simp only [hqueue] at hnext
    cases hnext
  | cons head fringe =>
    simp only [hqueue] at hnext
    split at hnext
    . next hplace =>
      rw [Sum.inl.injEq] at hnext
      subst hnext
      exact ⟨List.mem_cons_self, hplace⟩
    . cases hnext

-- The search when every question is answered by `placement`.
def answered (placement : AbilityId → Point2D → Bool) (center : Point2D) (radius : Rat)
    (building : AbilityId) : Loop (Frontier Point2DI) Point2DI :=
  (inquiry center radius).loop (ask (m := Id) placement building)

theorem findBuildposNear_eq
    : findBuildposNear (m := Id) placement center radius building
        =
      ((answered placement center radius building).run (start center)).elim
        (fun pixel => some pixel.toPoint2D) (fun _ => none) := by
  unfold answered findBuildposNear
  rw [← Inquiry.run_id]
  cases (inquiry center radius).run (m := Id) (ask placement building) (start center) <;> rfl

theorem answered_cases (hradius : 0 ≤ radius)
    : (∃ f, (answered placement center radius building).run (start center) = .inr f ∧
        ∀ tile, tooFar center radius tile = false → ¬ Placeable placement building tile) ∨
      ∃ pixel, (answered placement center radius building).run (start center) = .inl pixel ∧
        tooFar center radius pixel = false ∧ Placeable placement building pixel := by
  have hbody : ∀ f f', (answered placement center radius building).cond f = true →
      (answered placement center radius building).body f = .inr f' →
      Flooded (neighbours center radius) (tilePos center) (Placeable placement building) f →
      Flooded (neighbours center radius) (tilePos center) (Placeable placement building) f' := by
    intro f f' hcond hnext
    apply flooded_next hcond hnext
  rcases (answered placement center radius building).run_cases hbody flooded_start
    with ⟨f, hrun, hflooded, hcond⟩ | ⟨pixel, f, hrun, hflooded, hcond, hnext⟩
  . refine .inl ⟨f, hrun, ?_⟩
    intro tile htile
    have hempty : f.queue = [] := by
      simpa [answered, Inquiry.loop, inquiry] using hcond
    rcases walk_of_not_tooFar hradius htile with ⟨n, hwalk⟩
    apply hflooded.exhausted hempty hwalk
  . rcases head_of_next hnext with ⟨hmem, hplace⟩
    rcases hflooded.reached pixel hmem with ⟨n, hwalk⟩
    exact .inr ⟨pixel, hrun, not_tooFar_of_walk hradius hwalk, hplace⟩

theorem within_iff {tile : Point2DI}
    : distSquared tile.toPoint2D center ≤ (radius + 3) ^ 2 ↔ tooFar center radius tile = false := by
  unfold tooFar
  rw [decide_eq_false_iff_not, not_lt, sq]

end BuildPos

open BuildPos

theorem findBuildposNear_spec (placement : AbilityId → Point2D → Bool) (center : Point2D)
    {radius : Rat} (hradius : 0 ≤ radius) (building : AbilityId)
    : (∃ n result, (answered placement center radius building).Ends (start center) n result ∧
        findBuildposNear (m := Id) placement center radius building
          = result.elim (fun pixel => some pixel.toPoint2D) (fun _ => none)) ∧
      (findBuildposNear (m := Id) placement center radius building = none
        ↔
      ∀ tile : Point2DI, distSquared tile.toPoint2D center ≤ (radius + 3) ^ 2 →
        placement building tile.toPoint2D = false) ∧
      ∀ pos, findBuildposNear (m := Id) placement center radius building = some pos →
        ∃ tile : Point2DI, pos = tile.toPoint2D ∧
          distSquared tile.toPoint2D center ≤ (radius + 3) ^ 2 ∧
          placement building tile.toPoint2D = true := by
  simp only [findBuildposNear_eq, within_iff]
  refine ⟨?_, ?_⟩
  . rcases (answered placement center radius building).ends_run (start center)
      with ⟨n, -, hends⟩
    exact ⟨n, _, hends, rfl⟩
  . rcases @answered_cases center radius placement building hradius
      with ⟨f, hrun, hnone⟩ | ⟨pixel, hrun, hwithin, hplace⟩
    . rw [hrun]
      refine ⟨⟨?_, fun _ => rfl⟩, ?_⟩
      . intro _ tile htile
        apply Bool.eq_false_iff.mpr (hnone tile htile)
      . intro pos hpos
        cases hpos
    . rw [hrun]
      refine ⟨⟨?_, ?_⟩, ?_⟩
      . intro h
        cases h
      . intro h
        have hfalse := h pixel hwithin
        rw [show placement building pixel.toPoint2D = true from hplace] at hfalse
        cases hfalse
      . intro pos hpos
        cases hpos
        exact ⟨pixel, rfl, hwithin, hplace⟩

theorem findBuildposNear_spec_pylon
    : findBuildposNear (m := Id) (fun _ pos => pos == ⟨3, 2⟩) ⟨1 / 2, 1 / 2⟩ 1 .buildPylon
        = some ⟨3, 2⟩ := by
  have hspec := findBuildposNear_spec (fun _ pos => pos == ⟨3, 2⟩) ⟨1 / 2, 1 / 2⟩
    (by decide +kernel : (0 : Rat) ≤ 1) .buildPylon
  cases hfound : findBuildposNear (m := Id) (fun _ pos => pos == ⟨3, 2⟩) ⟨1 / 2, 1 / 2⟩ 1
      .buildPylon with
  | none =>
    have hplace := hspec.2.1.mp hfound ⟨3, 2⟩ (by decide +kernel)
    exact absurd hplace (by decide +kernel)
  | some pos =>
    rcases hspec.2.2 pos hfound with ⟨tile, rfl, -, hplace⟩
    rw [beq_iff_eq] at hplace
    rw [hplace]

end Sc2
