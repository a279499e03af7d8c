import Sc2pp.Lemmas.Grid
import Sc2pp.Util.Loop
import Sc2pp.Util.Search

/-!
This module contains the wave: the search for the nearest pixel of a grid that is a goal. The source
asks the grid for `getWidth` and `getHeight`, these are its width and height. A `transition` that is
not given is `none`.

The log says, in order, on which pixels the two predicates were called and which pixels were pushed
to the fringe. Nothing reads it.
-/

namespace Sc2.Utils

namespace Wave

inductive Event where
  | push (pixel : Point2DI)
  | isGoal (pixel : Point2DI)
  | transition (pixel v : Point2DI)
  deriving DecidableEq, Repr

end Wave

structure Wave where
  fringe : List Point2DI
  marked : List Point2DI
  log : List Wave.Event

namespace Wave

def start (center : Point2DI) : Wave where
  fringe := [center]
  marked := [center]
  log := [.push center]

def insert (w : Wave) (v : Point2DI) : Wave :=
  if v ∈ w.marked then
    w
  else
    { fringe := w.fringe ++ [v], marked := v :: w.marked, log := w.log ++ [.push v] }

def variants (pixel : Point2DI) : List Point2DI := [
  ⟨pixel.x + 1, pixel.y⟩,
  ⟨pixel.x, pixel.y + 1⟩,
  ⟨pixel.x - 1, pixel.y⟩,
  ⟨pixel.x, pixel.y - 1⟩,
  ⟨pixel.x + 1, pixel.y + 1⟩,
  ⟨pixel.x - 1, pixel.y - 1⟩
]

section

variable {T : Type} (g : Grid T) (isGoal : Point2DI → Bool)
  (transition : Option (Point2DI → Point2DI → Bool))

def visit (pixel : Point2DI) (w : Wave) (v : Point2DI) : Wave :=
  if g.width ≤ v.x || v.x < 0 then
    w
  else if g.height ≤ v.y || v.y < 0 then
    w
  else
    match transition with
    | none => w.insert v
    | some transition =>
      let w := { w with log := w.log ++ [.transition pixel v] }
      if !transition pixel v then w else w.insert v

def body (w : Wave) : (Point2DI × List Event) ⊕ Wave :=
  match w.fringe with
  | [] => .inr w
  | pixel :: fringe =>
    let w := { w with fringe := fringe, log := w.log ++ [.isGoal pixel] }
    if isGoal pixel then
      .inl (pixel, w.log)
    else
      .inr ((variants pixel).foldl (visit g transition pixel) w)

-- The pixels in the fringe and those that can still be marked.
def variant (w : Wave) : Nat :=
  w.fringe.length + ((pixels g.width g.height).filter (· ∉ w.marked)).length

theorem variant_insert {w : Wave} {v : Point2DI} (hv : v ∈ pixels g.width g.height)
    : variant g (w.insert v) ≤ variant g w := by
  have hle := Search.Frontier.measure_discover hv ⟨w.fringe, w.marked⟩
  unfold Search.Frontier.discover at hle
  unfold insert
  split
  . exact Nat.le_refl _
  . next hmarked =>
    rw [if_neg hmarked] at hle
    exact hle

theorem variant_visit (pixel : Point2DI) (w : Wave) (v : Point2DI)
    : variant g (visit g transition pixel w v) ≤ variant g w := by
  unfold visit
  split
  . exact Nat.le_refl _
  . next hx =>
    split
    . exact Nat.le_refl _
    . next hy =>
      have hv : v ∈ pixels g.width g.height := by
        simp only [Bool.or_eq_true, decide_eq_true_eq, not_or, Int.not_le, Int.not_lt] at hx hy
        rw [mem_pixels]
        omega
      cases transition with
      | none => exact variant_insert g hv
      | some transition =>
        simp only
        split
        . exact Nat.le_refl _
        . exact variant_insert g hv

theorem variant_foldl_visit (pixel : Point2DI) (vs : List Point2DI) (w : Wave)
    : variant g (vs.foldl (visit g transition pixel) w) ≤ variant g w := by
  induction vs generalizing w with
  | nil => exact Nat.le_refl _
  | cons v vs ih => exact Nat.le_trans (ih _) (variant_visit g transition pixel w v)

def loop : Loop Wave (Point2DI × List Event) where
  cond w := !w.fringe.isEmpty
  body := body g isGoal transition
  variant := variant g
  variant_pos w h := by
    unfold variant
    cases hfringe : w.fringe with
    | nil => simp [hfringe] at h
    | cons pixel fringe => simp
  variant_lt w w' h hbody := by
    unfold body at hbody
    cases hfringe : w.fringe with
    | nil => simp [hfringe] at h
    | cons pixel fringe =>
      simp only [hfringe] at hbody
      split at hbody
      . cases hbody
      . rw [Sum.inr.injEq] at hbody
        subst hbody
        have hle := variant_foldl_visit g transition pixel (variants pixel)
          { w with fringe := fringe, log := w.log ++ [.isGoal pixel] }
        have hpop : variant g { w with fringe := fringe, log := w.log ++ [.isGoal pixel] } + 1
            = variant g w := by
          simp only [variant, hfringe, List.length_cons]
          omega
        omega

end

end Wave

def waveRun {T : Type} (g : Grid T) (center : Point2DI) (isGoal : Point2DI → Bool)
    (transition : Option (Point2DI → Point2DI → Bool)) : Option Point2DI × List Wave.Event :=
  match (Wave.loop g isGoal transition).run (.start center) with
  | .inl (pixel, log) => (some pixel, log)
  | .inr w => (none, w.log)

def wave {T : Type} (g : Grid T) (center : Point2DI) (isGoal : Point2DI → Bool)
    (transition : Option (Point2DI → Point2DI → Bool) := none) : Option Point2DI :=
  (waveRun g center isGoal transition).1

end Sc2.Utils
