import Sc2pp.Impl.Grid
import Sc2pp.Util.Loop

/-!
This module contains the drawing of circles on a grid. A `Circle` has the variables of the loop. If
the circle fits into the grid none of them leaves the range of an `int`.

The source takes the type of the value from the grid's `ValueType`, this is the type of its cells. A
`Drawing` has the grid next to the pixels that were written, in order. Nothing reads these.
-/

namespace Sc2.Utils

structure Circle where
  x : Int
  y : Int
  err : Int

namespace Circle

def start (r : Int) : Circle where
  x := r
  y := 0
  err := 0

def octants (x y : Int) : List Point2DI :=
  [⟨x, y⟩, ⟨y, x⟩, ⟨-y, x⟩, ⟨-x, y⟩, ⟨-x, -y⟩, ⟨-y, -x⟩, ⟨y, -x⟩, ⟨x, -y⟩]

def stepY (c : Circle) : Circle :=
  if c.err ≤ 0 then
    { c with y := c.y + 1, err := c.err + (2 * (c.y + 1) + 1) }
  else
    c

def stepX (c : Circle) : Circle :=
  if 0 < c.err then
    { c with x := c.x - 1, err := c.err - (2 * (c.x - 1) + 1) }
  else
    c

def next (c : Circle) : Circle :=
  c.stepY.stepX

theorem next_closer (c : Circle) : c.next.x - c.next.y < c.x - c.y := by
  unfold next stepX stepY
  grind

end Circle

structure Drawing (T : Type) where
  g : Grid T
  circle : Circle
  written : List Point2DI

namespace Drawing

variable {T : Type}

def start (g : Grid T) (r : Int) : Drawing T where
  g := g
  circle := .start r
  written := []

def plot (center : Point2DI) (value : T) (d : Drawing T) (offset : Point2DI)
    : Outcome (Drawing T) := do
  let pixel := center.add offset
  let g ← d.g.setAt pixel value
  return { d with g := g, written := d.written ++ [pixel] }

def body (center : Point2DI) (value : T) (d : Drawing T) : Fault ⊕ Drawing T :=
  match (Circle.octants d.circle.x d.circle.y).foldlM (plot center value) d with
  | .error fault => .inl fault
  | .ok plotted => .inr { plotted with circle := d.circle.next }

def loop (center : Point2DI) (value : T) : Loop (Drawing T) Fault where
  cond d := d.circle.y ≤ d.circle.x
  body := body center value
  variant d := (d.circle.x - d.circle.y + 1).toNat
  variant_pos d h := by
    rw [decide_eq_true_eq] at h
    omega
  variant_lt d d' h hbody := by
    rw [decide_eq_true_eq] at h
    unfold body at hbody
    split at hbody
    . cases hbody
    . rw [Sum.inr.injEq] at hbody
      subst hbody
      have hcloser := d.circle.next_closer
      simp only
      omega

end Drawing

def drawCirle {T : Type} (g : Grid T) (center : Point2DI) (r : Int) (value : T)
    : Outcome (Grid T) :=
  match (Drawing.loop center value).run (.start g r) with
  | .inl fault => throw fault
  | .inr d => pure d.g

end Sc2.Utils
