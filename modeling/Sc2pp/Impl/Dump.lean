import Sc2pp.Impl.Map
import Sc2pp.Util.Lines

/-!
This module contains the files a map dumps its grids to. A file is written from the top row of the grid
down to the row with number 0. What an `ostream` shows of a cell is an argument, it is one character for
each of the types. Opening a file is taken to succeed, and a file holds the text that was written to it,
however the platform stores the end of a line. Files a constructor has written before it failed are
left out.
-/

namespace Sc2

abbrev Files := String → Option Text

namespace Utils

def dumpRow {T : Type} (shown : T → Char) (grid : Grid T) (y : Int) : Outcome Text :=
  (List.range grid.width.toNat).mapM fun (x : Nat) => do
    return shown (← grid.getAt ⟨x, y⟩)

def dumpText {T : Type} (shown : T → Char) (grid : Grid T) : Outcome Text := do
  let rows ← (List.range grid.height.toNat).reverse.mapM fun (y : Nat) => dumpRow shown grid y
  return Text.unlines rows

def dumpGrid {T : Type} (shown : T → Char) (grid : Grid T) (fileName : String) (files : Files)
    : Outcome Files := do
  let text ← dumpText shown grid
  return fun name => if name = fileName then some text else files name

def showBool (b : Bool) : Char :=
  if b then '1' else '0'

def showByte (n : UInt8) : Char :=
  Char.ofNat n.toNat

end Utils

namespace Map

open Utils

def newDumped (obs : Observation) (files : Files) : Outcome (Map × Files) := do
  let files ← dumpGrid showBool obs.gameInfo.pathingGrid "pathing.txt" files
  let files ← dumpGrid showByte obs.gameInfo.placementGrid "placement.txt" files
  let map ← Map.new obs
  let files ← dumpGrid id map.topology "topology.txt" files
  return (map, files)

def placeBuildingDumped (map : Map) (files : Files) (u : Unit) (mark : Char := 'b')
    : Outcome (Map × Files) :=
  if !isBuildingType u.unitType then
    pure (map, files)
  else do
    let map ← map.placeBuilding u mark
    let files ← dumpGrid id map.topology "topology.txt" files
    return (map, files)

end Map

end Sc2
