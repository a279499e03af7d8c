import Sc2pp.Impl.Wave
import Sc2pp.Util.Search

/-!
This module contains what the wave finds and what it takes. `neighbours` are the pixels a step leads
to, the frontier of a wave is the frontier of a breadth-first search along them. `Accounted` relates
the log of a wave to its fringe and its marked pixels.
-/

namespace Sc2.Utils.Wave

open Search

variable {T : Type} {g : Grid T} {isGoal : Point2DI → Bool}
  {transition : Option (Point2DI → Point2DI → Bool)}

def offsets : List Point2DI :=
  [⟨1, 0⟩, ⟨0, 1⟩, ⟨-1, 0⟩, ⟨0, -1⟩, ⟨1, 1⟩, ⟨-1, -1⟩]

def canStep (g : Grid T) (transition : Option (Point2DI → Point2DI → Bool)) (pixel v : Point2DI)
    : Bool :=
  decide (g.Inside v) && transition.all (fun transition => transition pixel v)

def neighbours (g : Grid T) (transition : Option (Point2DI → Point2DI → Bool)) (pixel : Point2DI)
    : List Point2DI :=
  (offsets.map pixel.add).filter (canStep g transition pixel)

theorem variants_eq (pixel : Point2DI) : variants pixel = offsets.map pixel.add := by
  simp [variants, offsets, Point2DI.add, Int.sub_eq_add_neg]

def frontier (w : Wave) : Frontier Point2DI :=
  ⟨w.fringe, w.marked⟩

-- What a step to a pixel inside the grid does.
def offer (transition : Option (Point2DI → Point2DI → Bool)) (pixel : Point2DI) (w : Wave)
    (v : Point2DI) : Wave :=
  match transition with
  | none => w.insert v
  | some f =>
    let w := { w with log := w.log ++ [.transition pixel v] }
    if !f pixel v then w else w.insert v

def pop (w : Wave) (pixel : Point2DI) (fringe : List Point2DI) : Wave :=
  { w with fringe := fringe, log := w.log ++ [.isGoal pixel] }

theorem visit_outside (pixel : Point2DI) (w : Wave) {v : Point2DI} (hv : ¬ g.Inside v)
    : visit g transition pixel w v = w := by
  unfold visit
  split
  . rfl
  . next hx =>
    rw [if_pos]
    simp only [Grid.Inside, Bool.or_eq_true, decide_eq_true_eq] at hv hx ⊢
    omega

theorem visit_inside (pixel : Point2DI) (w : Wave) {v : Point2DI} (hv : g.Inside v)
    : visit g transition pixel w v = offer transition pixel w v := by
  rcases hv with ⟨hx, hy⟩
  have hinx : (g.width ≤ v.x || v.x < 0) = false := by
    simp only [Bool.or_eq_false_iff, decide_eq_false_iff_not]
    omega
  have hiny : (g.height ≤ v.y || v.y < 0) = false := by
    simp only [Bool.or_eq_false_iff, decide_eq_false_iff_not]
    omega
  unfold visit offer
  rw [hinx, hiny]
  cases transition with
  | none => rfl
  | some f => rfl

theorem frontier_insert (w : Wave) (v : Point2DI)
    : (w.insert v).frontier = w.frontier.discover v := by
  unfold insert Frontier.discover frontier
  split
  . rfl
  . rfl

theorem frontier_visit (pixel : Point2DI) (w : Wave) (v : Point2DI)
    : (visit g transition pixel w v).frontier
        =
      if canStep g transition pixel v then w.frontier.discover v else w.frontier := by
  unfold canStep
  by_cases hv : g.Inside v
  . rw [visit_inside pixel w hv]
    unfold offer
    cases transition with
    | none => simp [hv, frontier_insert]
    | some f =>
      cases hf : f pixel v with
      | false => simp [hf, frontier]
      | true =>
        simp only
        rw [if_neg (by simp [hf]), if_pos (by simp [hv, hf])]
        apply frontier_insert
  . rw [visit_outside pixel w hv]
    simp [hv]

theorem frontier_foldl_visit (pixel : Point2DI) (vs : List Point2DI) (w : Wave)
    : (vs.foldl (visit g transition pixel) w).frontier
        =
      (vs.filter (canStep g transition pixel)).foldl Frontier.discover w.frontier := by
  induction vs generalizing w with
  | nil => rfl
  | cons v vs ih =>
    rw [List.foldl_cons, ih, frontier_visit, List.filter_cons]
    split
    . rfl
    . rfl

theorem body_cases {w : Wave} {pixel : Point2DI} {fringe : List Point2DI}
    (h : w.fringe = pixel :: fringe)
    : (isGoal pixel = true ∧
        body g isGoal transition w = .inl (pixel, (w.pop pixel fringe).log)) ∨
      (isGoal pixel = false ∧
        body g isGoal transition w
          = .inr ((variants pixel).foldl (visit g transition pixel) (w.pop pixel fringe))) := by
  unfold body
  simp only [h]
  cases hgoal : isGoal pixel with
  | false => exact .inr ⟨rfl, rfl⟩
  | true => exact .inl ⟨rfl, rfl⟩

theorem fringe_of_cond {w : Wave} (h : (loop g isGoal transition).cond w = true)
    : ∃ pixel fringe, w.fringe = pixel :: fringe := by
  cases hfringe : w.fringe with
  | nil => simp [loop, hfringe] at h
  | cons pixel fringe => exact ⟨pixel, fringe, rfl⟩

theorem body_eq_inr {w w' : Wave} (hcond : (loop g isGoal transition).cond w = true)
    (hbody : (loop g isGoal transition).body w = .inr w')
    : ∃ pixel fringe, w.fringe = pixel :: fringe ∧ isGoal pixel = false ∧
        w' = (variants pixel).foldl (visit g transition pixel) (w.pop pixel fringe) := by
  rcases fringe_of_cond hcond with ⟨pixel, fringe, hfringe⟩
  change body g isGoal transition w = .inr w' at hbody
  rcases body_cases hfringe with ⟨-, hreturn⟩ | ⟨hgoal, hnext⟩
  . rw [hreturn] at hbody
    cases hbody
  . rw [hnext, Sum.inr.injEq] at hbody
    exact ⟨pixel, fringe, hfringe, hgoal, hbody.symm⟩

theorem body_eq_inl {w : Wave} {pixel : Point2DI} {log : List Event}
    (hcond : (loop g isGoal transition).cond w = true)
    (hbody : (loop g isGoal transition).body w = .inl (pixel, log))
    : ∃ fringe, w.fringe = pixel :: fringe ∧ isGoal pixel = true ∧
        log = (w.pop pixel fringe).log := by
  rcases fringe_of_cond hcond with ⟨pixel', fringe, hfringe⟩
  change body g isGoal transition w = .inl (pixel, log) at hbody
  rcases body_cases hfringe with ⟨hgoal, hreturn⟩ | ⟨-, hnext⟩
  . rw [hreturn, Sum.inl.injEq, Prod.mk.injEq] at hbody
    rcases hbody with ⟨rfl, rfl⟩
    exact ⟨fringe, hfringe, hgoal, rfl⟩
  . rw [hnext] at hbody
    cases hbody

def Searching (g : Grid T) (isGoal : Point2DI → Bool)
    (transition : Option (Point2DI → Point2DI → Bool)) (center : Point2DI) (w : Wave) : Prop :=
  Search.Inv (neighbours g transition) center (fun p => isGoal p = true) w.frontier

theorem searching_body (center : Point2DI) (w w' : Wave)
    (hcond : (loop g isGoal transition).cond w = true)
    (hbody : (loop g isGoal transition).body w = .inr w')
    (h : Searching g isGoal transition center w) : Searching g isGoal transition center w' := by
  rcases body_eq_inr hcond hbody with ⟨pixel, fringe, hfringe, hgoal, rfl⟩
  unfold Searching
  rw [frontier_foldl_visit, variants_eq]
  apply Search.Inv.advance h hfringe
  simp [hgoal]

theorem wave_shortest (g : Grid T) (center : Point2DI) (isGoal : Point2DI → Bool)
    (transition : Option (Point2DI → Point2DI → Bool))
    : ((wave g center isGoal transition).isSome = true ↔
        ∃ p n, isGoal p = true ∧ Walk (neighbours g transition) center n p) ∧
      ∀ p, wave g center isGoal transition = some p →
        isGoal p = true ∧ ∃ n, Walk (neighbours g transition) center n p ∧
          ∀ q m, isGoal q = true → Walk (neighbours g transition) center m q → n ≤ m := by
  unfold wave waveRun
  have hstart : Searching g isGoal transition center (start center) := Search.inv_start
  rcases (loop g isGoal transition).run_cases (searching_body center) hstart
    with ⟨w, hrun, hsearching, hcond⟩ | ⟨⟨pixel, log⟩, w, hrun, hsearching, hcond, hbody⟩
  . rw [hrun]
    refine ⟨⟨by simp, ?_⟩, by simp⟩
    intro h
    rcases h with ⟨p, n, hgoal, hwalk⟩
    have hfringe : w.fringe = [] := by simpa [loop] using hcond
    exact absurd hgoal (hsearching.exhausted hfringe hwalk)
  . rw [hrun]
    rcases body_eq_inl hcond hbody with ⟨fringe, hfringe, hgoal, -⟩
    rcases hsearching.found hfringe with ⟨n, hwalk, hleast⟩
    refine ⟨⟨fun _ => ⟨pixel, n, hgoal, hwalk⟩, by simp⟩, ?_⟩
    intro p hp
    rw [Option.some.injEq] at hp
    subst hp
    exact ⟨hgoal, n, hwalk, hleast⟩

def pushes (log : List Event) : List Point2DI :=
  log.filterMap fun e =>
    match e with
    | .push v => some v
    | _ => none

def tests (log : List Event) : List Point2DI :=
  log.filterMap fun e =>
    match e with
    | .isGoal pixel => some pixel
    | _ => none

structure Accounted (g : Grid T) (w : Wave) : Prop where
  queued : pushes w.log = tests w.log ++ w.fringe
  once : (pushes w.log).Nodup
  marked : ∀ p, p ∈ w.marked ↔ p ∈ pushes w.log
  inside : ∀ p ∈ pushes w.log, g.Inside p
  transitions : ∀ p v, .transition p v ∈ w.log → g.Inside p ∧ g.Inside v

theorem accounted_start {center : Point2DI} (h : g.Inside center) : Accounted g (start center) where
  queued := rfl
  once := by simp [start, pushes]
  marked := by simp [start, pushes]
  inside := by simp [start, pushes, h]
  transitions := by simp [start]

theorem Accounted.insert {w : Wave} (h : Accounted g w) {v : Point2DI} (hv : g.Inside v)
    : Accounted g (w.insert v) := by
  unfold Wave.insert
  split
  . exact h
  . next hmarked =>
    rw [h.marked] at hmarked
    have hpushes : pushes (w.log ++ [.push v]) = pushes w.log ++ [v] := by
      simp [pushes]
    have htests : tests (w.log ++ [.push v]) = tests w.log := by
      simp [tests]
    constructor
    . simp only [hpushes, htests, h.queued, List.append_assoc]
    . simp only [hpushes]
      apply List.Nodup.append h.once (List.nodup_singleton v)
      simpa using hmarked
    . intro p
      simp only [hpushes, List.mem_cons, List.mem_append, h.marked]
      tauto
    . intro p hp
      simp only [hpushes, List.mem_append, List.mem_singleton] at hp
      rcases hp with hp | rfl
      . apply h.inside p hp
      . exact hv
    . intro p u hmem
      simp only [List.mem_append, List.mem_singleton, reduceCtorEq, or_false] at hmem
      apply h.transitions p u hmem

theorem Accounted.ask {w : Wave} (h : Accounted g w) {pixel v : Point2DI}
    (hpixel : g.Inside pixel) (hv : g.Inside v)
    : Accounted g { w with log := w.log ++ [.transition pixel v] } := by
  have hpushes : pushes (w.log ++ [.transition pixel v]) = pushes w.log := by
    simp [pushes]
  have htests : tests (w.log ++ [.transition pixel v]) = tests w.log := by
    simp [tests]
  constructor
  . simp only [hpushes, htests, h.queued]
  . simp only [hpushes, h.once]
  . simp only [hpushes, h.marked, implies_true]
  . simpa only [hpushes] using h.inside
  . intro p u hmem
    simp only [List.mem_append, List.mem_singleton, Event.transition.injEq] at hmem
    rcases hmem with hmem | ⟨rfl, rfl⟩
    . apply h.transitions p u hmem
    . exact ⟨hpixel, hv⟩

theorem Accounted.visit {w : Wave} (h : Accounted g w) {pixel : Point2DI} (hpixel : g.Inside pixel)
    (v : Point2DI) : Accounted g (visit g transition pixel w v) := by
  by_cases hv : g.Inside v
  . rw [visit_inside pixel w hv]
    unfold offer
    cases transition with
    | none => exact h.insert hv
    | some f =>
      simp only
      split
      . apply h.ask hpixel hv
      . exact (h.ask hpixel hv).insert hv
  . rw [visit_outside pixel w hv]
    exact h

theorem Accounted.foldl_visit {w : Wave} (h : Accounted g w) {pixel : Point2DI}
    (hpixel : g.Inside pixel) (vs : List Point2DI)
    : Accounted g (vs.foldl (Wave.visit g transition pixel) w) := by
  induction vs generalizing w with
  | nil => exact h
  | cons v vs ih => exact ih (h.visit hpixel v)

theorem Accounted.head {w : Wave} (h : Accounted g w) {pixel : Point2DI} {fringe : List Point2DI}
    (hfringe : w.fringe = pixel :: fringe) : g.Inside pixel := by
  apply h.inside
  rw [h.queued, hfringe]
  simp

theorem Accounted.pop {w : Wave} (h : Accounted g w) {pixel : Point2DI} {fringe : List Point2DI}
    (hfringe : w.fringe = pixel :: fringe) : Accounted g (w.pop pixel fringe) := by
  have hpushes : pushes (w.log ++ [.isGoal pixel]) = pushes w.log := by
    simp [pushes]
  have htests : tests (w.log ++ [.isGoal pixel]) = tests w.log ++ [pixel] := by
    simp [tests]
  unfold Wave.pop
  constructor
  . simp only [hpushes, htests, h.queued, hfringe, List.append_assoc, List.singleton_append]
  . simp only [hpushes, h.once]
  . simp only [hpushes, h.marked, implies_true]
  . simpa only [hpushes] using h.inside
  . intro p u hmem
    simp only [List.mem_append, List.mem_singleton, reduceCtorEq, or_false] at hmem
    apply h.transitions p u hmem

theorem accounted_body (w w' : Wave) (hcond : (loop g isGoal transition).cond w = true)
    (hbody : (loop g isGoal transition).body w = .inr w') (h : Accounted g w)
    : Accounted g w' := by
  rcases body_eq_inr hcond hbody with ⟨pixel, fringe, hfringe, -, rfl⟩
  exact (h.pop hfringe).foldl_visit (h.head hfringe) (variants pixel)

theorem accounted_run {center : Point2DI} (hcenter : g.Inside center) (isGoal : Point2DI → Bool)
    (transition : Option (Point2DI → Point2DI → Bool))
    : ∃ w, Accounted g w ∧ (waveRun g center isGoal transition).2 = w.log := by
  unfold waveRun
  rcases (loop g isGoal transition).run_cases accounted_body (accounted_start hcenter)
    with ⟨w, hrun, hw, -⟩ | ⟨⟨pixel, log⟩, w, hrun, hw, hcond, hbody⟩
  . rw [hrun]
    exact ⟨w, hw, rfl⟩
  . rw [hrun]
    rcases body_eq_inl hcond hbody with ⟨fringe, hfringe, -, rfl⟩
    exact ⟨w.pop pixel fringe, hw.pop hfringe, rfl⟩

theorem variant_start {center : Point2DI} (h : g.Inside center)
    : (variant g (start center) : Int) ≤ g.width * g.height := by
  have hlt : ((pixels g.width g.height).filter (· ∉ [center])).length
      < (pixels g.width g.height).length := by
    rw [List.length_filter_lt_length_iff_exists]
    exact ⟨center, Grid.mem_pixels_iff_inside.mpr h, by simp⟩
  have hlength : ((pixels g.width g.height).length : Int) = g.width * g.height := by
    rcases h with ⟨hx, hy⟩
    rw [length_pixels, Int.natCast_mul, Int.toNat_of_nonneg (by omega),
      Int.toNat_of_nonneg (by omega)]
  unfold variant start
  simp only [List.length_singleton]
  omega

theorem wave_bounded (g : Grid T) {center : Point2DI} (hcenter : g.Inside center)
    (isGoal : Point2DI → Bool) (transition : Option (Point2DI → Point2DI → Bool))
    : (∃ n : Nat, (n : Int) ≤ g.width * g.height ∧
        (loop g isGoal transition).Ends (start center) n
          ((loop g isGoal transition).run (start center))) ∧
      let log := (waveRun g center isGoal transition).2
      (pushes log).Nodup ∧ (tests log).Nodup ∧
        (∀ p ∈ pushes log, g.Inside p) ∧ (∀ p ∈ tests log, g.Inside p) ∧
        ∀ p v, .transition p v ∈ log → g.Inside p ∧ g.Inside v := by
  constructor
  . rcases (loop g isGoal transition).ends_run (start center) with ⟨n, hn, hends⟩
    have hvariant := variant_start hcenter
    change n ≤ variant g (start center) at hn
    exact ⟨n, by omega, hends⟩
  . rcases accounted_run hcenter isGoal transition with ⟨w, hw, hlog⟩
    have hdone : tests w.log <+: pushes w.log := ⟨w.fringe, hw.queued.symm⟩
    rw [hlog]
    exact ⟨hw.once, hw.once.sublist hdone.sublist, hw.inside,
      fun p hp => hw.inside p (hdone.subset hp), hw.transitions⟩

def strip : Grid Bool where
  width := 3
  height := 2
  cells := [false, false, true, false, false, true]
  length_cells := by decide
  area_lt := by decide

theorem wave_bounded_strip
    : (∃ n : Nat, n ≤ 6 ∧
        (loop strip (fun _ => false) none).Ends (start ⟨2, 1⟩) n
          ((loop strip (fun _ => false) none).run (start ⟨2, 1⟩))) ∧
      (tests (waveRun strip ⟨2, 1⟩ (fun _ => false) none).2).length = 6 ∧
      (tests (waveRun strip ⟨2, 1⟩ (fun _ => false) none).2).Nodup := by
  have hcenter : strip.Inside ⟨2, 1⟩ := by decide
  rcases wave_bounded strip hcenter (fun _ => false) none with ⟨⟨n, hn, hends⟩, -, hnodup, -⟩
  have hn : (n : Int) ≤ 3 * 2 := hn
  exact ⟨⟨n, by omega, hends⟩, by decide +kernel, hnodup⟩

end Sc2.Utils.Wave
