import Sc2pp.Util.Fault
import Sc2pp.Common

/-!
This module contains the unit pool, which compares each list of units with the one before it. Its
`std::unordered_map` is the list of pairs it was built from, inserting a key that is there keeps the
old value, so the first pair with a key counts. `atKey` is `unordered_map::at`.
-/

namespace Sc2

def getHealth (u : Unit) : Rat :=
  u.shield + u.health

structure UnitMap where
  entries : List (Tag × Unit) := []
  deriving Repr

namespace UnitMap

def ofRange (pairs : List (Tag × Unit)) : UnitMap :=
  { entries := pairs }

def contains (map : UnitMap) (tag : Tag) : Bool :=
  (map.entries.lookup tag).isSome

def atKey (map : UnitMap) (tag : Tag) : Outcome Unit :=
  match map.entries.lookup tag with
  | some u => pure u
  | none => throw (.exception "out_of_range")

end UnitMap

structure UnitPool where
  units : Units := []
  prevUnits : UnitMap := {}
  deriving Repr

structure UnitPool.Changes where
  newUnits : Units
  damaged : Units
  self : Units
  deriving Repr

def UnitPool.update (pool : UnitPool) (units : Units) : Outcome (UnitPool.Changes × UnitPool) := do
  let self := units.filter (fun x => x.alliance == .self)
  let existing := self.filter (fun u => pool.prevUnits.contains u.tag)
  let newUnits := self.filter (fun u => !pool.prevUnits.contains u.tag)
  let damaged ← existing.filterM fun existing => do
    let prev ← pool.prevUnits.atKey existing.tag
    return getHealth existing < getHealth prev
  let prevRange := self.map (fun x => (x.tag, x))
  return (
    { newUnits := newUnits, damaged := damaged, self := self },
    { units := units, prevUnits := UnitMap.ofRange prevRange }
  )

end Sc2
