import Sc2pp.Util.Fault
import Sc2pp.Impl.Grid
import Sc2pp.Impl.UnitTraits

/-!
This module contains vectors of fixed capacity, the footprints of units built from pictures, and the
table that gives a unit type its footprint.

A `FixedVector` is an array of which the first `size` elements are in use, these are the ones from
`begin` to `end`. Access by index does not look at `size`, so writing every element in order by `fill`
leaves it alone. The compiler evaluates every use of `make_footprint`, so none reads past the end of
its pattern.
-/

namespace Sc2.Utils

structure FixedVector (T : Type) (maxSize : Nat) where
  data : List T
  size : Nat
  length_data : data.length = maxSize
  size_le : size ≤ maxSize

namespace FixedVector

variable {T : Type} {maxSize : Nat}

def new [Inhabited T] (size : Nat) (h : size ≤ maxSize) : FixedVector T maxSize where
  data := List.replicate maxSize default
  size := size
  length_data := List.length_replicate
  size_le := h

def elements (v : FixedVector T maxSize) : List T :=
  v.data.take v.size

def getIndex (v : FixedVector T maxSize) (idx : Nat) : Outcome T :=
  Outcome.elementAt v.data idx

def iterate (v : FixedVector T maxSize) : Outcome (List T) :=
  (List.range v.size).mapM v.getIndex

def fill (v : FixedVector T maxSize) (xs : List T) (h : xs.length ≤ maxSize)
    : FixedVector T maxSize where
  data := xs ++ v.data.drop xs.length
  size := v.size
  length_data := by
    have := v.length_data
    simp only [List.length_append, List.length_drop]
    omega
  size_le := v.size_le

def setIndex (v : FixedVector T maxSize) (idx : Nat) (val : T) : Outcome (FixedVector T maxSize) :=
  if idx < maxSize then
    pure {
      v with
      data := v.data.set idx val
      length_data := by
        simp only [List.length_set]
        exact v.length_data
    }
  else
    throw .outOfRange

def pushBack (v : FixedVector T maxSize) (val : T) : Outcome (FixedVector T maxSize) :=
  if h : maxSize ≤ v.size then
    throw (.exception "FixedVector::push_back out of range")
  else
    pure {
      data := v.data.set v.size val
      size := v.size + 1
      length_data := by
        simp only [List.length_set]
        exact v.length_data
      size_le := by omega
    }

def count (eq : T → T → Bool) (v : FixedVector T maxSize) (val : T) : Bool :=
  v.elements.any (eq val)

end FixedVector

structure Footprint where
  tiles : FixedVector Point2DI 25
  width : Int
  height : Int

namespace Footprint

instance : Inhabited Footprint where
  default := { tiles := FixedVector.new 0 (by decide), width := 0, height := 0 }

def deltas (footprint : Footprint) : List Point2DI :=
  footprint.tiles.elements

def tilesAt (footprint : Footprint) (center : Point2DI) : List Point2DI :=
  footprint.deltas.map center.add

end Footprint

def makeFootprint (W H : Nat) (h : W * H ≤ 25) (pattern : String) : Footprint :=
  let at' (p : Point2DI) : Char := pattern.toList.getD (p.y * W + p.x).toNat '\x00'
  let center := (pixels W H).foldl (fun center p => if at' p == 'c' then p else center) ⟨-1, -1⟩
  let delta (p : Point2DI) : Point2DI :=
    if at' p == ' ' then ⟨0, 0⟩ else ⟨p.x - center.x, p.y - center.y⟩
  {
    tiles := (FixedVector.new (W * H) h).fill ((pixels W H).map delta) (by
      have : (pixels W H).length = W * H := by
        simp [pixels, Nat.mul_comm]
      simpa [this] using h)
    width := W
    height := H
  }

def allFootprints : List (UnitTypeId × Footprint) := [
  (.protossNexus, makeFootprint 5 5 (by decide) ("#####"
                                              ++ "#####"
                                              ++ "##c##"
                                              ++ "#####"
                                              ++ "#####")),
  (.protossForge, makeFootprint 3 3 (by decide) ("###"
                                              ++ "#c#"
                                              ++ "###")),
  (.protossAssimilator, makeFootprint 3 3 (by decide) ("###"
                                                    ++ "#c#"
                                                    ++ "###")),
  (.neutralRichVespeneGeyser, makeFootprint 3 3 (by decide) ("###"
                                                          ++ "#c#"
                                                          ++ "###")),
  (.neutralRichVespeneGeyser, makeFootprint 3 3 (by decide) ("###"
                                                          ++ "#c#"
                                                          ++ "###")),
  (.protossPylon, makeFootprint 2 2 (by decide) ("##"
                                              ++ "#c")),
  (.neutralMineralField, makeFootprint 2 1 (by decide) "#c"),
  (.neutralMineralField750, makeFootprint 2 1 (by decide) "#c")
]

def constexprMapGet {Key Value : Type} [BEq Key] (data : List (Key × Value)) (defaultValue : Value)
    (key : Key) : Value :=
  match data.find? (fun v => v.1 == key) with
  | some entry => entry.2
  | none => defaultValue

def getFootprint (type : UnitTypeId) : Footprint :=
  constexprMapGet allFootprints (makeFootprint 3 3 (by decide) ("###"
                                                             ++ "#c#"
                                                             ++ "###")) type

end Sc2.Utils
