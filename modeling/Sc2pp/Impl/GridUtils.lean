import Sc2pp.Impl.Grid
import Sc2pp.Impl.Footprints

/-!
This module contains the algorithms on grids. `zip_with` asks its grids for `getWidth` and `getHeight`,
these are their width and height.

`BoolLike` has the implicit conversions of a type to and from `bool`.
-/

namespace Sc2.Utils

def tilePos (pos : Point2D) : Point2DI :=
  ⟨pos.x.floor, pos.y.floor⟩

class BoolLike (R : Type) where
  toBool : R → Bool
  ofBool : Bool → R
  toBool_ofBool : ∀ b, toBool (ofBool b) = b

export BoolLike (toBool ofBool toBool_ofBool)

instance : BoolLike Bool where
  toBool := id
  ofBool := id
  toBool_ofBool _ := rfl

instance : BoolLike Int where
  toBool i := i != 0
  ofBool b := if b then 1 else 0
  toBool_ofBool := by decide

def zipWith {A B R : Type} [Inhabited R] [BoolLike R] (a : Grid A) (b : Grid B) (pred : A → B → R)
    : Outcome (Grid R) := do
  let res ← Grid.new a.width a.height default
  (pixels a.width a.height).foldlM (fun res pixel => do
    -- The result is stored as a `bool` first, whatever its type is.
    let value := toBool (pred (← a.getAt pixel) (← b.getAt pixel))
    res.setAt pixel (ofBool value)) res

def unite {A B : Type} (a : Grid A) (b : Grid B) (pred : A → B → Bool) : Outcome (List Point2DI) :=
  (pixels a.width a.height).filterM fun pixel => do
    return pred (← a.getAt pixel) (← b.getAt pixel)

def markWith {T B : Type} [Inhabited T] [BoolLike B] (a : Grid T) (b : Grid B) (mark : T)
    : Outcome (Grid T) := do
  let res ← Grid.new a.width a.height default
  (pixels a.width a.height).foldlM (fun res pixel => do
    let value ← if toBool (← b.getAt pixel) then pure mark else a.getAt pixel
    res.setAt pixel value) res

def applyFootprint {T : Type} (g : Grid T) (center : Point2DI) (footprint : Footprint) (value : T)
    : Outcome (Grid T) :=
  footprint.deltas.foldlM (fun g delta => g.setAt (center.add delta) value) g

def placeBuilding {T : Type} (g : Grid T) (u : Unit) (value : T) : Outcome (Grid T) :=
  if !isBuildingType u.unitType then
    pure g
  else
    let center := tilePos (.ofPoint3D u.pos)
    let footprint := getFootprint u.unitType
    applyFootprint g center footprint value

end Sc2.Utils
