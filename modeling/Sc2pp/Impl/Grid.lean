import Sc2pp.Util.Fault
import Sc2pp.Proto.Raw

/-!
This module contains the grids of the game map: decoding the bitmaps the game sends, and reading and
writing the cells of a decoded grid.

`pixels` is the double loop that visits a rectangle row by row. An `int` becomes an index through
`sizeT`, where negative values wrap around. The product of the two sizes of a grid is computed as an
`int`, which overflows for a product out of its range. A negative product asks for more elements than
any container holds.
-/

namespace Sc2

namespace Utils

def sizeT (i : Int) : Nat :=
  (i % 2 ^ 64).toNat

def pixels (width height : Int) : List Point2DI :=
  (List.range height.toNat).flatMap fun (y : Nat) =>
    (List.range width.toNat).map fun (x : Nat) => ⟨x, y⟩

structure GridView where
  width : Int
  height : Int
  data : List UInt8
  deriving Repr

namespace GridView

def ofImage (img : Proto.ImageData) : GridView where
  width := img.sizeX
  height := img.sizeY
  data := img.data

def getAt (view : GridView) (point : Point2DI) : Outcome Bool := do
  let idx := point.x + point.y * view.width
  let quot := idx.tdiv 8
  let rem := idx.tmod 8
  let d ← Outcome.elementAt view.data (sizeT quot)
  -- The element is a `char`, so a set top bit makes it a negative `int` before the shift.
  return (d.toInt8.toInt >>> (7 - rem).toNat) % 2 == 1

end GridView

structure Grid (T : Type) where
  width : Int
  height : Int
  cells : List T
  length_cells : (cells.length : Int) = width * height
  area_lt : width * height < 2 ^ 31

namespace Grid

variable {T : Type}

instance : Inhabited (Grid T) where
  default := {
    width := 0
    height := 0
    cells := []
    length_cells := by simp
    area_lt := by decide
  }

def new (width height : Int) (value : T) : Outcome (Grid T) :=
  if hrange : width * height < -2 ^ 31 ∨ 2 ^ 31 ≤ width * height then
    throw .intOverflow
  else if hneg : width * height < 0 then
    throw (.exception "length_error")
  else
    pure {
      width := width
      height := height
      cells := List.replicate (width * height).toNat value
      length_cells := by
        simp only [List.length_replicate]
        omega
      area_lt := by omega
    }

def flatIndex (width : Int) (point : Point2DI) : Nat :=
  sizeT (point.y * width + point.x)

def getAt (grid : Grid T) (point : Point2DI) : Outcome T :=
  Outcome.elementAt grid.cells (flatIndex grid.width point)

def setIndex (grid : Grid T) (idx : Nat) (value : T) : Outcome (Grid T) :=
  if idx < grid.cells.length then
    pure {
      grid with
      cells := grid.cells.set idx value
      length_cells := by
        simp only [List.length_set]
        exact grid.length_cells
    }
  else
    throw .outOfRange

def setAt (grid : Grid T) (point : Point2DI) (value : T) : Outcome (Grid T) :=
  grid.setIndex (flatIndex grid.width point) value

def ofImage (ofBool : Bool → T) (img : Proto.ImageData) : Outcome (Grid T) := do
  -- Whatever the image says about its bits per pixel, it is read as one bit per pixel.
  let grid ← new img.sizeX img.sizeY (ofBool false)
  let view := GridView.ofImage img
  (pixels view.width view.height).foldlM (fun grid point => do
    let value ← view.getAt point
    grid.setIndex (sizeT (point.y * view.width + point.x)) (ofBool value)) grid

end Grid

end Utils

end Sc2
