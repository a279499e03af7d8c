import Sc2pp.Lemmas.Images
import Sc2pp.Util.Bitmap

/-!
This module contains which cells a decoded image has. Whatever the image says about its encoding, its
data is read as a bitmap of one bit per pixel, row by row. So a boolean matrix that was packed this
way comes back, while an image of one byte per pixel does not.
-/

namespace Sc2

namespace Utils

open Bitmap

def pixelBit (img : Proto.ImageData) (p : Point2DI) : Option Bool :=
  bitAt img.data (bitIndex img p).toNat

theorem bitIndex_lt_of_complete {img : Proto.ImageData} (harea : ¬ img.BadArea) (h : img.Complete)
    {p : Point2DI} (hp : p ∈ pixels img.sizeX img.sizeY) : bitIndex img p < 8 * img.data.length := by
  have hinside := mem_pixels.mp hp
  have hbits := h (by omega)
  have hlt := (bitIndex_bounds harea hp).2.1
  omega

theorem GridView.getAt_eq_ok {img : Proto.ImageData} (harea : ¬ img.BadArea) {p : Point2DI}
    (hp : p ∈ pixels img.sizeX img.sizeY) {bit : Bool} (h : pixelBit img p = some bit)
    : (ofImage img).getAt p = .ok bit := by
  rcases bitIndex_bounds harea hp with ⟨hnonneg, -, -⟩
  have hquot : (bitIndex img p / 8).toNat = (bitIndex img p).toNat / 8 := by omega
  have hrem : (7 - (bitIndex img p).tmod 8).toNat = 7 - (bitIndex img p).toNat % 8 := by
    rw [Int.tmod_eq_emod_of_nonneg hnonneg]
    omega
  unfold pixelBit bitAt at h
  rw [Option.map_eq_some_iff] at h
  rcases h with ⟨byte, hbyte, hbit⟩
  rw [getAt_eq, sizeT_bitIndex harea hp, hquot, Outcome.elementAt_eq_ok.mpr hbyte, Outcome.bind_ok,
    hrem, shiftRight_toInt8 byte (by omega), hbit]
  rfl

namespace Grid

variable {T : Type}

open Canvas in
theorem paints_decodePixel {img : Proto.ImageData} (harea : ¬ img.BadArea) (hcomplete : img.Complete)
    (ofBool : Bool → T) {p : Point2DI} (hp : p ∈ pixels img.sizeX img.sizeY)
    : Paints (Sized img.sizeX img.sizeY) cell (decodePixel ofBool img) (fun p => [p])
        (fun p => (pixelBit img p).map ofBool) p := by
  intro grid hsized
  have hnonneg := (bitIndex_bounds harea hp).1
  have hlt := bitIndex_lt_of_complete harea hcomplete hp
  have hbits : (bitIndex img p).toNat < 8 * img.data.length := by omega
  rcases bitAt_of_lt hbits with ⟨bit, hbit⟩
  have hinside : grid.Inside p := by
    rw [← mem_pixels_iff_inside, hsized.1, hsized.2]
    exact hp
  rcases setAt_of_inside hinside (ofBool bit) with ⟨grid', hset, hsized', hcell⟩
  refine ⟨grid', ?_, by rwa [hsized.1, hsized.2] at hsized', ?_⟩
  . unfold decodePixel
    rw [GridView.getAt_eq_ok harea hp hbit, Outcome.bind_ok, ← hset, ← hsized.1]
    rfl
  . rw [hcell, paint_singleton]
    simp only [pixelBit, hbit, Option.map_some]

theorem ofImage_content {img : Proto.ImageData} (harea : ¬ img.BadArea) (hcomplete : img.Complete)
    (ofBool : Bool → T)
    : ∃ grid, ofImage ofBool img = .ok grid ∧ grid.Sized img.sizeX img.sizeY ∧
        ∀ p, grid.Inside p → grid.cell p = (pixelBit img p).map ofBool := by
  rcases new_of_not_badArea harea (ofBool false) with ⟨blank, hblank, hsized⟩
  rcases Canvas.Paints.foldlM
    (fun p hp => paints_decodePixel harea hcomplete ofBool hp) blank hsized
    with ⟨grid, hgrid, hgood, hcell⟩
  refine ⟨grid, by rw [ofImage_eq, hblank, Outcome.bind_ok, hgrid], hgood, ?_⟩
  intro p hp
  rw [← mem_pixels_iff_inside, hgood.1, hgood.2] at hp
  rw [hcell, Canvas.paint_apply, if_pos (by simpa using hp)]

end Grid

def matrixBit (width height : Int) (matrix : Point2DI → Bool) (padding : Nat → Bool) (i : Nat)
    : Bool :=
  if i < width * height then matrix ⟨i % width, i / width⟩ else padding i

def packMatrix (bitsPerPixel : Option Int32) (width height : Int32) (matrix : Point2DI → Bool)
    (padding : Nat → Bool) : Proto.ImageData where
  bitsPerPixel := bitsPerPixel
  size := some { x := some width, y := some height }
  data :=
    pack (width.toInt * height.toInt).toNat (matrixBit width.toInt height.toInt matrix padding)

def Unpacks (width height : Int32) (matrix : Point2DI → Bool) (img : Proto.ImageData) : Prop :=
  ∃ grid, Grid.ofImage id img = .ok grid ∧ grid.Sized width.toInt height.toInt ∧
    ∀ p, grid.Inside p → grid.cell p = some (matrix p)

section

variable {width height : Int32} {matrix : Point2DI → Bool} {padding : Nat → Bool}
  {bitsPerPixel : Option Int32}

theorem pixelBit_packMatrix {p : Point2DI} (hp : p ∈ pixels width.toInt height.toInt)
    : pixelBit (packMatrix bitsPerPixel width height matrix padding) p = some (matrix p) := by
  have hbounds := linear_bounds hp
  rcases mem_pixels.mp hp with ⟨⟨hx0, hx⟩, ⟨hy0, hy⟩⟩
  let i := (p.x + p.y * width.toInt).toNat
  have hi : (i : Int) = p.x + p.y * width.toInt := by
    simp only [i]
    omega
  have hmatrix : matrixBit width.toInt height.toInt matrix padding i = matrix p := by
    unfold matrixBit
    rw [if_pos (by omega), hi, Int.add_mul_emod_self_right, Int.emod_eq_of_lt hx0 hx,
      Int.add_mul_ediv_right _ _ (by omega), Int.ediv_eq_zero_of_lt hx0 hx, Int.zero_add]
  change bitAt (pack _ _) i = some (matrix p)
  rw [bitAt_pack _ (by omega), hmatrix]

theorem packMatrix_complete
    : (packMatrix bitsPerPixel width height matrix padding).Complete := by
  intro _
  change width.toInt * height.toInt ≤ 8 * (pack _ _).length
  rw [length_pack]
  omega

theorem ofImage_packMatrix (hwidth : 0 ≤ width.toInt) (hheight : 0 ≤ height.toInt)
    (bitsPerPixel : Option Int32) (matrix : Point2DI → Bool) (padding : Nat → Bool)
    : Unpacks width height matrix (packMatrix bitsPerPixel width height matrix padding)
        ↔
      width.toInt * height.toInt < 2 ^ 31 := by
  have hnonneg : 0 ≤ width.toInt * height.toInt := Int.mul_nonneg hwidth hheight
  let img := packMatrix bitsPerPixel width height matrix padding
  by_cases harea : img.BadArea
  . rcases Grid.ofImage_of_badArea harea id with ⟨fault, hfault⟩
    constructor
    . intro h
      rcases h with ⟨grid, hgrid, -⟩
      change Grid.ofImage id img = .ok grid at hgrid
      rw [hfault] at hgrid
      cases hgrid
    . intro h
      change width.toInt * height.toInt < 0 ∨ 2 ^ 31 ≤ width.toInt * height.toInt at harea
      omega
  . rcases Grid.ofImage_content harea packMatrix_complete id with ⟨grid, hgrid, hsized, hcell⟩
    constructor
    . intro _
      change ¬ (width.toInt * height.toInt < 0 ∨ 2 ^ 31 ≤ width.toInt * height.toInt) at harea
      omega
    . intro _
      refine ⟨grid, hgrid, hsized, ?_⟩
      intro p hp
      rw [hcell p hp, Option.map_id]
      rw [← Grid.mem_pixels_iff_inside, hsized.1, hsized.2] at hp
      apply pixelBit_packMatrix hp

end

theorem ofImage_packMatrix_diagonal
    : Unpacks 5 3 (fun p => p.x == p.y)
        (packMatrix (some 1) 5 3 (fun p => p.x == p.y) fun _ => true) := by
  have hwidth : 0 ≤ (5 : Int32).toInt := by decide
  have hheight : 0 ≤ (3 : Int32).toInt := by decide
  rw [ofImage_packMatrix hwidth hheight]
  decide

theorem ofImage_packMatrix_overflow
    : ¬ ∀ (width height : Int32) (matrix : Point2DI → Bool) (padding : Nat → Bool),
        0 ≤ width.toInt → 0 ≤ height.toInt →
          Unpacks width height matrix (packMatrix (some 1) width height matrix padding) := by
  intro h
  rcases h 65536 32768 (fun _ => false) (fun _ => false) (by decide) (by decide)
    with ⟨grid, hgrid, -⟩
  have harea : (packMatrix (some 1) 65536 32768 (fun _ => false) fun _ => false).BadArea := by
    right
    decide
  rcases Grid.ofImage_of_badArea harea id with ⟨fault, hfault⟩
  rw [hfault] at hgrid
  cases hgrid

-- The value the encoding of an image gives a pixel.
def pixelValue (img : Proto.ImageData) (p : Point2DI) : Option UInt8 :=
  if img.bitsPerPixel = some 8 then
    img.data[(bitIndex img p).toNat]?
  else
    (pixelBit img p).map Bool.toUInt8

structure WellFormed (img : Proto.ImageData) : Prop where
  width : 0 ≤ img.sizeX
  height : 0 ≤ img.sizeY
  encoding : img.bitsPerPixel = some 1 ∧ img.sizeX * img.sizeY ≤ 8 * img.data.length ∨
    img.bitsPerPixel = some 8 ∧ img.sizeX * img.sizeY ≤ img.data.length

def Respects (img : Proto.ImageData) : Prop :=
  ∃ grid, Grid.ofImage Bool.toUInt8 img = .ok grid ∧ grid.Sized img.sizeX img.sizeY ∧
    ∀ p, grid.Inside p → grid.cell p = pixelValue img p

theorem WellFormed.complete {img : Proto.ImageData} (h : WellFormed img) : img.Complete := by
  intro _
  rcases h.encoding with ⟨-, hdata⟩ | ⟨-, hdata⟩
  . exact hdata
  . omega

-- Every byte would have to be a bit of a byte before it, and the first one its own top bit.
theorem eq_zero_of_eq_bit {data : List UInt8} {n : Nat}
    (h : ∀ i < n, data[i]? = (bitAt data i).map Bool.toUInt8) {i : Nat} (hi : i < n)
    (hlength : i < 8 * data.length) : data[i]? = some 0 := by
  induction i using Nat.strongRecOn with
  | ind i ih =>
    have hbit := h i hi
    rcases Nat.eq_zero_or_pos i with rfl | hpos
    . rcases bitAt_of_lt hlength with ⟨bit, hfirst⟩
      rw [hfirst, Option.map_some] at hbit
      unfold bitAt at hfirst
      rw [Nat.zero_div, hbit, Option.map_some, Option.some.injEq] at hfirst
      cases bit with
      | false => exact hbit
      | true => cases hfirst
    . have hbefore := ih (i / 8) (by omega) (by omega) (by omega)
      rw [hbit, bitAt_of_zero hbefore]
      rfl

theorem not_respects_of_badArea {img : Proto.ImageData} (harea : img.BadArea) : ¬ Respects img := by
  intro h
  rcases h with ⟨grid, hgrid, -⟩
  rcases Grid.ofImage_of_badArea harea Bool.toUInt8 with ⟨fault, hfault⟩
  rw [hfault] at hgrid
  cases hgrid

theorem respects_iff_of_not_badArea {img : Proto.ImageData} (harea : ¬ img.BadArea)
    (hcomplete : img.Complete)
    : Respects img
        ↔
      ∀ p ∈ pixels img.sizeX img.sizeY, pixelValue img p = (pixelBit img p).map Bool.toUInt8 := by
  rcases Grid.ofImage_content harea hcomplete Bool.toUInt8 with ⟨grid, hgrid, hsized, hcell⟩
  have hpixels : ∀ p, p ∈ pixels img.sizeX img.sizeY ↔ grid.Inside p := by
    intro p
    rw [← Grid.mem_pixels_iff_inside, hsized.1, hsized.2]
  constructor
  . intro hrespects p hp
    rcases hrespects with ⟨grid', hgrid', -, hcell'⟩
    rw [hgrid, Except.ok.injEq] at hgrid'
    subst hgrid'
    rw [hpixels] at hp
    rw [← hcell p hp, hcell' p hp]
  . intro hvalue
    refine ⟨grid, hgrid, hsized, ?_⟩
    intro p hp
    rw [hcell p hp, hvalue p ((hpixels p).mpr hp)]

theorem WellFormed.badArea_iff {img : Proto.ImageData} (h : WellFormed img)
    : img.BadArea ↔ ¬ img.sizeX * img.sizeY < 2 ^ 31 := by
  have hnonneg : 0 ≤ img.sizeX * img.sizeY := Int.mul_nonneg h.width h.height
  unfold Proto.ImageData.BadArea
  omega

theorem respects_iff_pixelBit {img : Proto.ImageData} (h : WellFormed img)
    : Respects img
        ↔
      img.sizeX * img.sizeY < 2 ^ 31 ∧
        ∀ p ∈ pixels img.sizeX img.sizeY,
          pixelValue img p = (pixelBit img p).map Bool.toUInt8 := by
  by_cases harea : img.BadArea
  . have hlarge := h.badArea_iff.mp harea
    simp only [not_respects_of_badArea harea, hlarge, false_and]
  . have hsmall := not_not.mp (mt h.badArea_iff.mpr harea)
    simp only [respects_iff_of_not_badArea harea h.complete, hsmall, true_and]

-- In an image of one byte per pixel, bytes that are all the bits they are decoded to are all zero.
theorem bytes_eq_bits_iff {img : Proto.ImageData} (harea : ¬ img.BadArea) (hwidth : 0 ≤ img.sizeX)
    (hlength : img.sizeX * img.sizeY ≤ 8 * img.data.length)
    : (∀ p ∈ pixels img.sizeX img.sizeY,
          img.data[(bitIndex img p).toNat]? = (pixelBit img p).map Bool.toUInt8)
        ↔
      ∀ i : Nat, i < img.sizeX * img.sizeY → img.data[i]? = some 0 := by
  constructor
  . intro hvalue i hi
    have hbits : ∀ j < (img.sizeX * img.sizeY).toNat,
        img.data[j]? = (bitAt img.data j).map Bool.toUInt8 := by
      intro j hj
      have hj : (j : Int) < img.sizeX * img.sizeY := by omega
      rcases exists_pixel hj hwidth with ⟨p, hp, hindex⟩
      have hpixel := hvalue p hp
      unfold pixelBit bitIndex at hpixel
      rwa [hindex, Int.toNat_natCast] at hpixel
    apply eq_zero_of_eq_bit hbits (by omega) (by omega)
  . intro hzero p hp
    have hbounds := bitIndex_bounds harea hp
    have hpixel := hzero (bitIndex img p).toNat (by omega)
    have hbyte := hzero ((bitIndex img p).toNat / 8) (by omega)
    rw [hpixel, pixelBit, bitAt_of_zero hbyte]
    rfl

theorem respects_iff {img : Proto.ImageData} (h : WellFormed img)
    : Respects img
        ↔
      img.sizeX * img.sizeY < 2 ^ 31 ∧
        (img.bitsPerPixel = some 8 →
          ∀ i : Nat, i < img.sizeX * img.sizeY → img.data[i]? = some 0) := by
  rw [respects_iff_pixelBit h]
  apply and_congr_right
  intro hlt
  have harea : ¬ img.BadArea := by
    rw [h.badArea_iff]
    apply not_not.mpr hlt
  by_cases hbytes : img.bitsPerPixel = some 8
  . have hlength : img.sizeX * img.sizeY ≤ 8 * img.data.length := by
      rcases h.encoding with ⟨-, hdata⟩ | ⟨-, hdata⟩
      . exact hdata
      . omega
    simp only [pixelValue, hbytes, if_true, forall_const]
    apply bytes_eq_bits_iff harea h.width hlength
  . simp [pixelValue, hbytes]

def blankHeights : Proto.ImageData where
  bitsPerPixel := some 8
  size := some { x := some 2, y := some 2 }
  data := [0, 0, 0, 0]

theorem respects_blankHeights : Respects blankHeights := by
  have hformed : WellFormed blankHeights :=
    ⟨by decide, by decide, .inr ⟨rfl, by decide⟩⟩
  have hzero : ∀ i < 4, blankHeights.data[i]? = some 0 := by decide
  rw [respects_iff hformed]
  refine ⟨by decide, ?_⟩
  intro _ i hi
  change (i : Int) < 4 at hi
  apply hzero i (by omega)

def oneHeight : Proto.ImageData where
  bitsPerPixel := some 8
  size := some { x := some 1, y := some 1 }
  data := [127]

theorem not_respects_oneHeight : ¬ ∀ img, WellFormed img → Respects img := by
  intro h
  have hformed : WellFormed oneHeight := ⟨by decide, by decide, .inr ⟨rfl, by decide⟩⟩
  have hvalue := ((respects_iff_pixelBit hformed).mp (h oneHeight hformed)).2 ⟨0, 0⟩ (by decide)
  exact absurd hvalue (by decide)

end Utils

end Sc2
