import Sc2pp.Impl.Dump
import Sc2pp.Lemmas.Map

/-!
This module contains that a dumped grid can be read back, and that the files of a map show its grids as
they are, however many buildings are placed. A grid without a row has an empty file, whatever its width
is.
-/

namespace Sc2

namespace Utils

variable {T : Type}

def rowCells (grid : Grid T) (y : Nat) : List T :=
  (grid.cells.drop (y * grid.width.toNat)).take grid.width.toNat

def shownText (shown : T → Char) (grid : Grid T) : Text :=
  Text.unlines ((List.range grid.height.toNat).reverse.map fun y => (rowCells grid y).map shown)

theorem width_nonneg {grid : Grid T} {y : Nat} (hy : y < grid.height.toNat) : 0 ≤ grid.width := by
  have hlength := grid.length_cells
  by_contra hneg
  have harea : grid.width * grid.height < 0 := Int.mul_neg_of_neg_of_pos (by omega) (by omega)
  omega

theorem length_cells_nat {grid : Grid T} (hwidth : 0 ≤ grid.width) (hheight : 0 ≤ grid.height)
    : grid.cells.length = grid.height.toNat * grid.width.toNat := by
  have hlength := grid.length_cells
  zify
  rw [Int.toNat_of_nonneg hwidth, Int.toNat_of_nonneg hheight, hlength, mul_comm]

theorem length_rowCells {grid : Grid T} {y : Nat} (hy : y < grid.height.toNat)
    : (rowCells grid y).length = grid.width.toNat := by
  have hlength := length_cells_nat (width_nonneg hy) (by omega)
  have hrows : (y + 1) * grid.width.toNat ≤ grid.height.toNat * grid.width.toNat :=
    Nat.mul_le_mul_right _ hy
  rw [Nat.succ_mul] at hrows
  unfold rowCells
  rw [List.length_take, List.length_drop, hlength]
  omega

theorem flatten_rows (grid : Grid T) (n : Nat)
    : ((List.range n).map (rowCells grid)).flatten = grid.cells.take (n * grid.width.toNat) := by
  induction n with
  | zero => simp
  | succ n ih =>
    rw [List.range_succ, List.map_append, List.flatten_append, ih, Nat.succ_mul, List.take_add]
    simp [rowCells]

theorem getAt_row {grid : Grid T} {x y : Nat} (hx : x < grid.width.toNat)
    (hy : y < grid.height.toNat)
    : grid.getAt ⟨x, y⟩ = Outcome.elementAt (rowCells grid y) x := by
  have hinside : grid.Inside ⟨x, y⟩ := by
    unfold Grid.Inside
    simp only
    omega
  have hflat : Grid.flatIndex grid.width ⟨x, y⟩ = y * grid.width.toNat + x := by
    have hindex := Grid.flatIndex_of_inside hinside
    zify
    rw [hindex, Int.toNat_of_nonneg (width_nonneg hy)]
  unfold Grid.getAt Outcome.elementAt rowCells
  rw [hflat, List.getElem?_take_of_lt hx, List.getElem?_drop]

theorem dumpRow_eq (shown : T → Char) {grid : Grid T} {y : Nat} (hy : y < grid.height.toNat)
    : dumpRow shown grid y = .ok ((rowCells grid y).map shown) := by
  have hlength := length_rowCells hy
  unfold dumpRow
  rw [← hlength]
  apply Outcome.mapM_elementAt
  intro x hx
  rw [getAt_row (hlength ▸ hx) hy]

theorem dumpText_eq (shown : T → Char) (grid : Grid T)
    : dumpText shown grid = .ok (shownText shown grid) := by
  have hrows : ((List.range grid.height.toNat).reverse.mapM fun (y : Nat) => dumpRow shown grid y)
      = .ok ((List.range grid.height.toNat).reverse.map fun y => (rowCells grid y).map shown) := by
    rw [Outcome.mapM_eq_ok, List.forall₂_map_right_iff, List.forall₂_same]
    intro y hy
    rw [List.mem_reverse, List.mem_range] at hy
    apply dumpRow_eq shown hy
  unfold dumpText
  rw [hrows, Outcome.bind_ok, Outcome.pure_eq_ok, shownText]

structure Picture (T : Type) where
  width : Int
  height : Int
  cells : List T
  deriving DecidableEq, Repr

def picture (grid : Grid T) : Picture T where
  width := grid.width
  height := grid.height
  cells := grid.cells

def readPicture (parse : Char → Option T) (text : Text) : Option (Picture T) := do
  let rows := Text.lines text
  let cells ← rows.reverse.flatten.mapM parse
  return { width := (rows.headD []).length, height := rows.length, cells := cells }

structure Readable (shown : T → Char) (parse : Char → Option T) (v : T) : Prop where
  parse : parse (shown v) = some v
  oneLine : shown v ≠ '\n'

theorem mapM_parse {shown : T → Char} {parse : Char → Option T} {cells : List T}
    (h : ∀ v ∈ cells, Readable shown parse v) : (cells.map shown).mapM parse = some cells := by
  induction cells with
  | nil => rfl
  | cons v cells ih =>
    rw [List.forall_mem_cons] at h
    rw [List.map_cons, List.mapM_cons, h.1.parse, ih h.2]
    rfl

theorem mem_of_mem_rowCells {grid : Grid T} {y : Nat} {v : T} (h : v ∈ rowCells grid y)
    : v ∈ grid.cells := by
  unfold rowCells at h
  apply List.mem_of_mem_drop (List.mem_of_mem_take h)

theorem lines_shownText {shown : T → Char} {grid : Grid T}
    (honeLine : ∀ v ∈ grid.cells, shown v ≠ '\n')
    : Text.lines (shownText shown grid)
        =
      ((List.range grid.height.toNat).map fun y => (rowCells grid y).map shown).reverse := by
  unfold shownText
  rw [← List.map_reverse]
  apply Text.lines_unlines
  intro row hrow hnewline
  rw [List.mem_map] at hrow
  rcases hrow with ⟨y, -, rfl⟩
  rw [List.mem_map] at hnewline
  rcases hnewline with ⟨v, hv, hshown⟩
  apply honeLine v (mem_of_mem_rowCells hv) hshown

theorem readPicture_shownText {shown : T → Char} {parse : Char → Option T} {grid : Grid T}
    (hheight : 0 < grid.height) (hcells : ∀ v ∈ grid.cells, Readable shown parse v)
    : readPicture parse (shownText shown grid) = some (picture grid) := by
  have hlast : grid.height.toNat - 1 < grid.height.toNat := by omega
  have hwidth := width_nonneg hlast
  have hflatten : ((List.range grid.height.toNat).map fun y => (rowCells grid y).map shown).flatten
      = grid.cells.map shown := by
    have hrows := congrArg (List.map shown) (flatten_rows grid grid.height.toNat)
    rw [← length_cells_nat hwidth (by omega), List.take_length, List.map_flatten, List.map_map]
      at hrows
    exact hrows
  have hhead : ((((List.range grid.height.toNat).map fun y =>
      (rowCells grid y).map shown).reverse).headD []).length = grid.width := by
    have hne : grid.height.toNat ≠ 0 := by omega
    rw [List.headD_eq_head?_getD, List.head?_reverse, List.getLast?_map, List.getLast?_range,
      if_neg hne]
    simp only [Option.map_some, Option.getD_some, List.length_map]
    rw [length_rowCells hlast, Int.toNat_of_nonneg hwidth]
  unfold readPicture picture
  rw [lines_shownText fun v hv => (hcells v hv).oneLine]
  simp only [List.reverse_reverse, hflatten, mapM_parse hcells, hhead, List.length_reverse,
    List.length_map, List.length_range, Int.toNat_of_nonneg (le_of_lt hheight)]
  rfl

theorem dumpText_reads (shown : T → Char) (grid : Grid T)
    : ∃ text, dumpText shown grid = .ok text ∧
        ∀ parse, 0 < grid.height → (∀ v ∈ grid.cells, Readable shown parse v) →
          readPicture parse text = some (picture grid) := by
  refine ⟨shownText shown grid, dumpText_eq shown grid, ?_⟩
  intro parse hheight hcells
  apply readPicture_shownText hheight hcells

theorem dumpText_reads_small
    : ∃ text, dumpText id (Map.smallGrid '#') = .ok text ∧
        readPicture some text = some (picture (Map.smallGrid '#')) := by
  rcases dumpText_reads id (Map.smallGrid '#') with ⟨text, hdump, hreads⟩
  refine ⟨text, hdump, ?_⟩
  apply hreads some (by decide)
  intro v hv
  rw [List.eq_of_mem_replicate hv]
  exact ⟨rfl, by decide⟩

def parseBool : Char → Option Bool
  | '0' => some false
  | '1' => some true
  | _ => none

def parseByte (c : Char) : Option UInt8 :=
  if c.toNat < 256 then some (UInt8.ofNat c.toNat) else none

theorem readable_bool (b : Bool) : Readable showBool parseBool b := by
  cases b with
  | false => exact ⟨rfl, by decide⟩
  | true => exact ⟨rfl, by decide⟩

theorem toNat_showByte (n : UInt8) : (showByte n).toNat = n.toNat := by
  have hlt := n.toNat_lt
  have hvalid : n.toNat.isValidChar := by
    left
    omega
  unfold showByte Char.ofNat
  rw [dif_pos hvalid]
  rfl

theorem readable_byte {n : UInt8} (h : n ≠ 10) : Readable showByte parseByte n := by
  have hcode := toNat_showByte n
  constructor
  . unfold parseByte
    rw [hcode, if_pos n.toNat_lt, UInt8.ofNat_toNat]
  . intro hnewline
    rw [hnewline] at hcode
    apply h
    apply UInt8.toNat_inj.mp hcode.symm

end Utils

namespace Map

open Utils

def shownFiles (map : Map) (files : Files) : Files := fun name =>
  if name = "topology.txt" then
    some (shownText id map.topology)
  else if name = "placement.txt" then
    some (shownText showByte map.placementGrid)
  else if name = "pathing.txt" then
    some (shownText showBool map.pathingGrid)
  else
    files name

def run (obs : Observation) (calls : List (Unit × Char)) : Outcome Map := do
  let map ← new obs
  calls.foldlM (fun map call => map.placeBuilding call.1 call.2) map

def runDumped (obs : Observation) (files : Files) (calls : List (Unit × Char))
    : Outcome (Map × Files) := do
  let res ← newDumped obs files
  calls.foldlM (fun res call => placeBuildingDumped res.1 res.2 call.1 call.2) res

theorem new_grids {obs : Observation} {map : Map} (h : new obs = .ok map)
    : map.pathingGrid = obs.gameInfo.pathingGrid ∧
      map.placementGrid = obs.gameInfo.placementGrid := by
  unfold new at h
  simp only [Outcome.bind_eq_ok, Outcome.pure_eq_ok, Except.ok.injEq] at h
  rcases h with ⟨_, _, _, _, _, _, _, _, _, _, _, _, _, _, rfl⟩
  exact ⟨rfl, rfl⟩

theorem newDumped_eq (obs : Observation) (files : Files)
    : newDumped obs files = (do let map ← new obs; return (map, map.shownFiles files)) := by
  unfold newDumped dumpGrid
  simp only [dumpText_eq, Outcome.bind_ok, Outcome.pure_eq_ok]
  cases hnew : new obs with
  | error e => rfl
  | ok map =>
    have hgrids := new_grids hnew
    simp only [Outcome.bind_ok, Except.ok.injEq, Prod.mk.injEq, true_and]
    funext name
    unfold shownFiles
    rw [hgrids.1, hgrids.2]

theorem placeBuilding_grids {map map' : Map} {u : Unit} {mark : Char}
    (h : map.placeBuilding u mark = .ok map')
    : map'.pathingGrid = map.pathingGrid ∧ map'.placementGrid = map.placementGrid := by
  unfold placeBuilding at h
  split at h
  . rw [Outcome.pure_eq_ok, Except.ok.injEq] at h
    subst h
    exact ⟨rfl, rfl⟩
  . simp only [Outcome.bind_eq_ok, Outcome.pure_eq_ok, Except.ok.injEq] at h
    rcases h with ⟨_, -, rfl⟩
    exact ⟨rfl, rfl⟩

theorem placeBuildingDumped_eq (map : Map) (files : Files) (u : Unit) (mark : Char)
    : map.placeBuildingDumped (map.shownFiles files) u mark
        =
      (do let map ← map.placeBuilding u mark; return (map, map.shownFiles files)) := by
  unfold placeBuildingDumped
  cases hbuilding : isBuildingType u.unitType with
  | false =>
    unfold placeBuilding
    rw [hbuilding]
    rfl
  | true =>
    unfold dumpGrid
    simp only [dumpText_eq, Outcome.bind_ok, Outcome.pure_eq_ok]
    cases hplace : map.placeBuilding u mark with
    | error e => rfl
    | ok map' =>
      have hgrids := placeBuilding_grids hplace
      simp only [Bool.not_true, Bool.false_eq_true, if_false, Outcome.bind_ok, Except.ok.injEq,
        Prod.mk.injEq, true_and]
      funext name
      unfold shownFiles
      rw [hgrids.1, hgrids.2]
      split
      . rfl
      . rfl

theorem runDumped_eq (obs : Observation) (files : Files) (calls : List (Unit × Char))
    : runDumped obs files calls
        =
      (do let map ← run obs calls; return (map, map.shownFiles files)) := by
  have hcalls : ∀ map : Map,
      calls.foldlM (fun res call => placeBuildingDumped res.1 res.2 call.1 call.2)
          (map, map.shownFiles files)
        =
      (do
        let map ← calls.foldlM (fun map call => map.placeBuilding call.1 call.2) map
        return (map, map.shownFiles files)) := by
    induction calls with
    | nil =>
      intro map
      rfl
    | cons call calls ih =>
      intro map
      rw [List.foldlM_cons, List.foldlM_cons, placeBuildingDumped_eq]
      cases hplace : map.placeBuilding call.1 call.2 with
      | error e => rfl
      | ok map' => exact ih map'
  unfold runDumped run
  rw [newDumped_eq]
  cases hnew : new obs with
  | error e => rfl
  | ok map => exact hcalls map

def OneLine (width height : Int) (topology : Grid Char) : Prop :=
  topology.Sized width height ∧ ∀ mark ∈ topology.cells, mark ≠ '\n'

theorem setAt_oneLine {width height : Int} {topology topology' : Grid Char} {p : Point2DI}
    {mark : Char} (hmark : mark ≠ '\n') (h : OneLine width height topology)
    (hset : topology.setAt p mark = .ok topology') : OneLine width height topology' := by
  unfold Grid.setAt at hset
  by_cases hlt : Grid.flatIndex topology.width p < topology.cells.length
  . rcases Grid.setIndex_of_lt hlt mark with ⟨_, hset', hsized, hcells⟩
    rw [hset', Except.ok.injEq] at hset
    subst hset
    rw [h.1.1, h.1.2] at hsized
    refine ⟨hsized, ?_⟩
    intro mark' hmark'
    rw [hcells] at hmark'
    rcases List.mem_or_eq_of_mem_set hmark' with hold | rfl
    . apply h.2 mark' hold
    . exact hmark
  . unfold Grid.setIndex at hset
    rw [if_neg hlt] at hset
    cases hset

theorem applyFootprint_oneLine {width height : Int} {topology topology' : Grid Char}
    {center : Point2DI} {footprint : Footprint} {mark : Char} (hmark : mark ≠ '\n')
    (h : OneLine width height topology)
    (happly : applyFootprint topology center footprint mark = .ok topology')
    : OneLine width height topology' := by
  apply Outcome.foldlM_preserves (fun delta _ topology topology' => setAt_oneLine hmark) h happly

theorem applyFootprints_oneLine {width height : Int} {topology topology' : Grid Char}
    {units : Units} {mark : Char} (hmark : mark ≠ '\n') (h : OneLine width height topology)
    (happly : applyFootprints topology units mark = .ok topology')
    : OneLine width height topology' := by
  apply Outcome.foldlM_preserves (fun u _ topology topology' => applyFootprint_oneLine hmark) h
    happly

theorem newGrid_oneLine {width height : Int} {mark : Char} {topology : Grid Char}
    (hmark : mark ≠ '\n') (h : Grid.new width height mark = .ok topology)
    : OneLine width height topology := by
  refine ⟨(Grid.cell_new h).1, ?_⟩
  unfold Grid.new at h
  split at h
  . cases h
  . split at h
    . cases h
    . rw [Outcome.pure_eq_ok, Except.ok.injEq] at h
      subst h
      intro mark' hmark'
      rwa [List.eq_of_mem_replicate hmark']

theorem new_oneLine {obs : Observation} {map : Map} (h : new obs = .ok map)
    : OneLine obs.gameInfo.pathingGrid.width obs.gameInfo.pathingGrid.height map.topology := by
  unfold new at h
  simp only [Outcome.bind_eq_ok, Outcome.pure_eq_ok, Except.ok.injEq] at h
  rcases h with ⟨blank, hblank, pathed, hpathed, ramps, -, ramped, hramped, mined, hmined, gassed,
    hgassed, drawn, hdrawn, rfl⟩
  apply applyFootprints_oneLine (by decide) ?_ hdrawn
  apply applyFootprints_oneLine (by decide) ?_ hgassed
  apply applyFootprints_oneLine (by decide) ?_ hmined
  apply Outcome.foldlM_preserves (fun r _ topology topology' => setAt_oneLine (by decide)) ?_ hramped
  apply Outcome.foldlM_preserves ?_ (newGrid_oneLine (by decide) hblank) hpathed
  intro pixel _ topology topology' htopology hset
  rw [Outcome.bind_eq_ok] at hset
  rcases hset with ⟨pathing, -, hset⟩
  apply setAt_oneLine ?_ htopology hset
  cases pathing <;> decide

theorem placeBuilding_oneLine {width height : Int} {map map' : Map} {u : Unit} {mark : Char}
    (hmark : mark ≠ '\n') (h : OneLine width height map.topology)
    (hplace : map.placeBuilding u mark = .ok map') : OneLine width height map'.topology := by
  unfold placeBuilding at hplace
  split at hplace
  . rw [Outcome.pure_eq_ok, Except.ok.injEq] at hplace
    exact hplace ▸ h
  . next hbuilding =>
    simp only [Outcome.bind_eq_ok, Outcome.pure_eq_ok, Except.ok.injEq] at hplace
    rcases hplace with ⟨topology, hplace, rfl⟩
    unfold Utils.placeBuilding at hplace
    rw [if_neg hbuilding] at hplace
    apply applyFootprint_oneLine hmark h hplace

theorem run_grids {obs : Observation} {calls : List (Unit × Char)} {map : Map}
    (hrun : run obs calls = .ok map)
    : map.pathingGrid = obs.gameInfo.pathingGrid ∧
      map.placementGrid = obs.gameInfo.placementGrid := by
  unfold run at hrun
  rw [Outcome.bind_eq_ok] at hrun
  rcases hrun with ⟨map₁, hnew, hcalls⟩
  have hstep : ∀ call ∈ calls, ∀ map map' : Map,
      map.pathingGrid = obs.gameInfo.pathingGrid ∧
        map.placementGrid = obs.gameInfo.placementGrid →
      map.placeBuilding call.1 call.2 = .ok map' →
      map'.pathingGrid = obs.gameInfo.pathingGrid ∧
        map'.placementGrid = obs.gameInfo.placementGrid := by
    intro call _ map map' hgrids hplace
    rw [(placeBuilding_grids hplace).1, (placeBuilding_grids hplace).2]
    exact hgrids
  exact Outcome.foldlM_preserves hstep (new_grids hnew) hcalls

theorem run_oneLine {obs : Observation} {calls : List (Unit × Char)} {map : Map}
    (hmarks : ∀ call ∈ calls, call.2 ≠ '\n') (hrun : run obs calls = .ok map)
    : OneLine obs.gameInfo.pathingGrid.width obs.gameInfo.pathingGrid.height map.topology := by
  unfold run at hrun
  rw [Outcome.bind_eq_ok] at hrun
  rcases hrun with ⟨map₁, hnew, hcalls⟩
  have hstep : ∀ call ∈ calls, ∀ map map' : Map,
      OneLine obs.gameInfo.pathingGrid.width obs.gameInfo.pathingGrid.height map.topology →
      map.placeBuilding call.1 call.2 = .ok map' →
      OneLine obs.gameInfo.pathingGrid.width obs.gameInfo.pathingGrid.height map'.topology :=
    fun call hcall map map' => placeBuilding_oneLine (hmarks call hcall)
  exact Outcome.foldlM_preserves hstep (new_oneLine hnew) hcalls

theorem runDumped_shows (obs : Observation) (files : Files) (calls : List (Unit × Char))
    : runDumped obs files calls
          =
        (do let map ← run obs calls; return (map, map.shownFiles files)) ∧
      ∀ map, run obs calls = .ok map →
        (0 < obs.gameInfo.pathingGrid.height →
          ((∀ call ∈ calls, call.2 ≠ '\n') →
            (map.shownFiles files "topology.txt").bind (readPicture some)
              = some (picture map.topology)) ∧
          (map.shownFiles files "pathing.txt").bind (readPicture parseBool)
            = some (picture obs.gameInfo.pathingGrid)) ∧
        (0 < obs.gameInfo.placementGrid.height →
          (∀ v ∈ obs.gameInfo.placementGrid.cells, v ≠ 10) →
            (map.shownFiles files "placement.txt").bind (readPicture parseByte)
              = some (picture obs.gameInfo.placementGrid)) := by
  refine ⟨runDumped_eq obs files calls, ?_⟩
  intro map hrun
  have hgrids := run_grids hrun
  refine ⟨?_, ?_⟩
  . intro hheight
    refine ⟨?_, ?_⟩
    . intro hmarks
      have hline := run_oneLine hmarks hrun
      apply readPicture_shownText
      . rwa [hline.1.2]
      . intro mark hmark
        exact ⟨rfl, hline.2 mark hmark⟩
    . rw [← hgrids.1]
      apply readPicture_shownText
      . rwa [hgrids.1]
      . intro v hv
        apply readable_bool
  . intro hheight hcells
    rw [← hgrids.2]
    apply readPicture_shownText
    . rwa [hgrids.2]
    . intro v hv
      apply readable_byte
      apply hcells v (hgrids.2 ▸ hv)

def pylonCalls : List (Unit × Char) :=
  [(unitAt .protossPylon 3 2, 'b'), (unitAt .protossProbe 1 1, 'p')]

theorem runDumped_shows_pylon
    : ∃ map dumped, runDumped (Observation.new smallInfo [] []) (fun _ => none) pylonCalls
          = .ok (map, dumped) ∧
        (dumped "topology.txt").bind (readPicture some) = some (picture map.topology) ∧
        (dumped "pathing.txt").bind (readPicture parseBool) = some (picture (smallGrid true)) ∧
        (dumped "placement.txt").bind (readPicture parseByte) = some (picture (smallGrid 0)) := by
  have hspec := runDumped_shows (Observation.new smallInfo [] []) (fun _ => none) pylonCalls
  have hok : (run (Observation.new smallInfo [] []) pylonCalls).isOk = true := by decide +kernel
  cases hrun : run (Observation.new smallInfo [] []) pylonCalls with
  | error e =>
    rw [hrun] at hok
    cases hok
  | ok map =>
    rcases hspec.2 map hrun with ⟨hpathing, hplacement⟩
    rcases hpathing (by decide) with ⟨htopology, hpathing⟩
    refine ⟨map, map.shownFiles fun _ => none, ?_, htopology (by decide), hpathing, ?_⟩
    . rw [hspec.1, hrun, Outcome.bind_ok, Outcome.pure_eq_ok]
    . apply hplacement (by decide)
      intro v hv
      rw [List.eq_of_mem_replicate hv]
      decide

end Map

end Sc2
