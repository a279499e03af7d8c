import Sc2pp.Util.Fault
import Sc2pp.Impl.UnitTraits

/-!
This module contains the predicates and distances the agents pick units with. Positions of units are
compared in the plane.
-/

namespace Sc2

def building (u : Unit) : Bool :=
  Utils.isBuildingType u.unitType

def built (u : Unit) : Bool :=
  u.buildProgress == 1

def idle (u : Unit) : Bool :=
  u.orders.isEmpty

def Point2D.sub (lhs rhs : Point2D) : Point2D :=
  ⟨lhs.x - rhs.x, lhs.y - rhs.y⟩

def dot (a b : Point2D) : Rat :=
  a.x * b.x + a.y * b.y

def distSquared (a b : Point2D) : Rat :=
  let diff := a.sub b
  dot diff diff

def minElement (less : Unit → Unit → Bool) : Unit → Units → Unit
  | smallest, [] => smallest
  | smallest, u :: units => minElement less (if less u smallest then u else smallest) units

def closest (pos : Point2D) (objects : Units) : Outcome Unit :=
  match objects with
  | [] => throw .assertFailed
  | u :: units =>
    pure (minElement (fun a b =>
      distSquared pos (.ofPoint3D a.pos) < distSquared pos (.ofPoint3D b.pos)) u units)

end Sc2
