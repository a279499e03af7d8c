import Sc2pp.Impl.Observation
import Sc2pp.Lemmas.Grid

/-!
This module contains how the decoding of the bitmaps in a game info can end. The area of a bitmap can
be negative, no grid has that size, or out of the range of an `int`. A bitmap that is not `Complete` has
fewer bits than its size says, reading it runs past the end of its bytes.
-/

namespace Sc2

namespace Proto

def ImageData.BadArea (img : ImageData) : Prop :=
  img.sizeX * img.sizeY < 0 ∨ 2 ^ 31 ≤ img.sizeX * img.sizeY

def ImageData.NegativeArea (img : ImageData) : Prop :=
  -2 ^ 31 ≤ img.sizeX * img.sizeY ∧ img.sizeX * img.sizeY < 0

def ImageData.Complete (img : ImageData) : Prop :=
  0 < img.sizeX → img.sizeX * img.sizeY ≤ 8 * img.data.length

def ImageData.Readable (img : ImageData) : Prop :=
  ¬ img.BadArea ∧ img.Complete

-- The bitmaps are decoded in order, and not after one whose negative area is an exception.
def ImagesFit : List ImageData → Prop
  | [] => True
  | img :: imgs => img.NegativeArea ∨ (img.Readable ∧ ImagesFit imgs)

instance (img : ImageData) : Decidable img.BadArea :=
  inferInstanceAs (Decidable (_ ∨ _))

instance (img : ImageData) : Decidable img.NegativeArea :=
  inferInstanceAs (Decidable (_ ∧ _))

instance (img : ImageData) : Decidable img.Complete :=
  inferInstanceAs (Decidable (_ → _))

instance (img : ImageData) : Decidable img.Readable :=
  inferInstanceAs (Decidable (_ ∧ _))

def decidableImagesFit : (imgs : List ImageData) → Decidable (ImagesFit imgs)
  | [] => isTrue trivial
  | img :: imgs =>
    have := decidableImagesFit imgs
    inferInstanceAs (Decidable (img.NegativeArea ∨ (img.Readable ∧ ImagesFit imgs)))

instance (imgs : List ImageData) : Decidable (ImagesFit imgs) :=
  decidableImagesFit imgs

theorem ImageData.Readable.not_negativeArea {img : ImageData} (h : img.Readable)
    : ¬ img.NegativeArea := by
  intro hneg
  exact h.1 (.inl hneg.2)

def StartRaw.images (startRaw : StartRaw) : List ImageData :=
  [startRaw.pathingGrid.getD {}, startRaw.terrainHeight.getD {}, startRaw.placementGrid.getD {}]

end Proto

namespace Utils

def bitIndex (img : Proto.ImageData) (p : Point2DI) : Int :=
  p.x + p.y * img.sizeX

theorem bitIndex_bounds {img : Proto.ImageData} (harea : ¬ img.BadArea) {p : Point2DI}
    (hp : p ∈ pixels img.sizeX img.sizeY)
    : 0 ≤ bitIndex img p ∧ bitIndex img p < img.sizeX * img.sizeY ∧ bitIndex img p < 2 ^ 31 := by
  have hbounds := linear_bounds hp
  unfold Proto.ImageData.BadArea at harea
  unfold bitIndex
  omega

theorem sizeT_bitIndex {img : Proto.ImageData} (harea : ¬ img.BadArea) {p : Point2DI}
    (hp : p ∈ pixels img.sizeX img.sizeY)
    : sizeT ((bitIndex img p).tdiv 8) = (bitIndex img p / 8).toNat := by
  rcases bitIndex_bounds harea hp with ⟨hnonneg, -, hlt⟩
  rw [Int.tdiv_eq_ediv_of_nonneg hnonneg]
  unfold sizeT
  omega

namespace GridView

theorem getAt_eq (img : Proto.ImageData) (p : Point2DI)
    : (ofImage img).getAt p = do
        let d ← Outcome.elementAt img.data (sizeT ((bitIndex img p).tdiv 8))
        return (d.toInt8.toInt >>> (7 - (bitIndex img p).tmod 8).toNat) % 2 == 1 := by
  rfl

theorem getAt_of_lt {img : Proto.ImageData} (harea : ¬ img.BadArea) {p : Point2DI}
    (hp : p ∈ pixels img.sizeX img.sizeY) (h : bitIndex img p < 8 * img.data.length)
    : ∃ value, (ofImage img).getAt p = .ok value := by
  have hnonneg := (bitIndex_bounds harea hp).1
  have hlt : (bitIndex img p / 8).toNat < img.data.length := by omega
  rw [getAt_eq, sizeT_bitIndex harea hp, Outcome.elementAt_of_lt hlt, Outcome.bind_ok]
  exact ⟨_, rfl⟩

theorem getAt_of_le {img : Proto.ImageData} (harea : ¬ img.BadArea) {p : Point2DI}
    (hp : p ∈ pixels img.sizeX img.sizeY) (h : 8 * img.data.length ≤ bitIndex img p)
    : (ofImage img).getAt p = .error .outOfRange := by
  rw [getAt_eq, sizeT_bitIndex harea hp, Outcome.elementAt_of_le (by omega), Outcome.bind_error]

end GridView

namespace Grid

variable {T : Type}

theorem new_of_negativeArea {img : Proto.ImageData} (h : img.NegativeArea) (value : T)
    : new img.sizeX img.sizeY value = .error (.exception "length_error") := by
  unfold Proto.ImageData.NegativeArea at h
  unfold new
  rw [dif_neg (by omega), dif_pos h.2]
  rfl

theorem new_of_overflow {img : Proto.ImageData} (h : img.BadArea) (hneg : ¬ img.NegativeArea)
    (value : T) : new img.sizeX img.sizeY value = .error .intOverflow := by
  unfold Proto.ImageData.BadArea at h
  unfold Proto.ImageData.NegativeArea at hneg
  unfold new
  rw [dif_pos (by omega)]
  rfl

theorem ofImage_of_negativeArea {img : Proto.ImageData} (h : img.NegativeArea) (ofBool : Bool → T)
    : ofImage ofBool img = .error (.exception "length_error") := by
  unfold ofImage
  rw [new_of_negativeArea h, Outcome.bind_error]

theorem ofImage_of_overflow {img : Proto.ImageData} (h : img.BadArea) (hneg : ¬ img.NegativeArea)
    (ofBool : Bool → T) : ofImage ofBool img = .error .intOverflow := by
  unfold ofImage
  rw [new_of_overflow h hneg, Outcome.bind_error]

theorem ofImage_of_badArea {img : Proto.ImageData} (h : img.BadArea) (ofBool : Bool → T)
    : ∃ fault, ofImage ofBool img = .error fault := by
  by_cases hneg : img.NegativeArea
  . exact ⟨_, ofImage_of_negativeArea hneg ofBool⟩
  . exact ⟨_, ofImage_of_overflow h hneg ofBool⟩

theorem new_of_not_badArea {img : Proto.ImageData} (h : ¬ img.BadArea) (value : T)
    : ∃ grid, new img.sizeX img.sizeY value = .ok grid ∧ grid.Sized img.sizeX img.sizeY := by
  unfold Proto.ImageData.BadArea at h
  unfold new
  rw [dif_neg (by omega), dif_neg (by omega)]
  exact ⟨_, rfl, rfl, rfl⟩

theorem setIndex_pixel {width height : Int} {p : Point2DI} (hp : p ∈ pixels width height)
    {grid : Grid T} (h : grid.Sized width height) (value : T)
    : ∃ grid', grid.setIndex (sizeT (p.y * width + p.x)) value = .ok grid' ∧
        grid'.Sized width height := by
  rcases h with ⟨rfl, rfl⟩
  rcases setIndex_of_lt (flatIndex_lt (mem_pixels_iff_inside.mp hp)) value
    with ⟨grid', hset, hsized, -⟩
  exact ⟨grid', hset, hsized⟩

def decodePixel (ofBool : Bool → T) (img : Proto.ImageData) (grid : Grid T) (p : Point2DI)
    : Outcome (Grid T) := do
  let value ← (GridView.ofImage img).getAt p
  grid.setIndex (sizeT (p.y * img.sizeX + p.x)) (ofBool value)

theorem ofImage_eq (ofBool : Bool → T) (img : Proto.ImageData)
    : ofImage ofBool img
        =
      new img.sizeX img.sizeY (ofBool false) >>=
        (pixels img.sizeX img.sizeY).foldlM (decodePixel ofBool img) := by
  rfl

theorem decodePixel_of_lt {img : Proto.ImageData} (harea : ¬ img.BadArea) {p : Point2DI}
    (hp : p ∈ pixels img.sizeX img.sizeY) (h : bitIndex img p < 8 * img.data.length)
    (ofBool : Bool → T) {grid : Grid T} (hsized : grid.Sized img.sizeX img.sizeY)
    : ∃ grid', decodePixel ofBool img grid p = .ok grid' ∧
        grid'.Sized img.sizeX img.sizeY := by
  rcases GridView.getAt_of_lt harea hp h with ⟨value, hvalue⟩
  unfold decodePixel
  rw [hvalue, Outcome.bind_ok]
  apply setIndex_pixel hp hsized (ofBool value)

theorem decodePixel_of_le {img : Proto.ImageData} (harea : ¬ img.BadArea) {p : Point2DI}
    (hp : p ∈ pixels img.sizeX img.sizeY) (h : 8 * img.data.length ≤ bitIndex img p)
    (ofBool : Bool → T) (grid : Grid T)
    : decodePixel ofBool img grid p = .error .outOfRange := by
  unfold decodePixel
  rw [GridView.getAt_of_le harea hp h, Outcome.bind_error]

theorem ofImage_of_complete {img : Proto.ImageData} (harea : ¬ img.BadArea) (h : img.Complete)
    (ofBool : Bool → T) : ∃ grid, ofImage ofBool img = .ok grid := by
  rcases new_of_not_badArea harea (ofBool false) with ⟨blank, hblank, hsized⟩
  have hpixel : ∀ p ∈ pixels img.sizeX img.sizeY, ∀ grid : Grid T,
      grid.Sized img.sizeX img.sizeY →
      ∃ grid', decodePixel ofBool img grid p = .ok grid' ∧ grid'.Sized img.sizeX img.sizeY := by
    intro p hp grid hgrid
    have hinside := mem_pixels.mp hp
    have hbits := h (by omega)
    have hlt := (bitIndex_bounds harea hp).2.1
    apply decodePixel_of_lt harea hp (by omega) ofBool hgrid
  rcases Outcome.foldlM_exists hpixel hsized with ⟨grid, hgrid, -⟩
  exact ⟨grid, by rw [ofImage_eq, hblank, Outcome.bind_ok, hgrid]⟩

theorem last_pixel_of_not_complete {img : Proto.ImageData} (h : ¬ img.Complete)
    : ∃ p ∈ pixels img.sizeX img.sizeY, 8 * img.data.length ≤ bitIndex img p := by
  unfold Proto.ImageData.Complete at h
  rw [Classical.not_imp] at h
  rcases h with ⟨hwidth, hshort⟩
  have hheight : 0 < img.sizeY := by
    by_contra hheight
    have harea := Int.mul_nonpos_of_nonneg_of_nonpos (a := img.sizeX) (b := img.sizeY)
    omega
  refine ⟨⟨img.sizeX - 1, img.sizeY - 1⟩, mem_pixels.mpr (by simp only; omega), ?_⟩
  have hindex : bitIndex img ⟨img.sizeX - 1, img.sizeY - 1⟩ = img.sizeX * img.sizeY - 1 := by
    unfold bitIndex
    ring
  omega

theorem ofImage_of_not_complete {img : Proto.ImageData} (harea : ¬ img.BadArea)
    (h : ¬ img.Complete) (ofBool : Bool → T) : ofImage ofBool img = .error .outOfRange := by
  rcases new_of_not_badArea harea (ofBool false) with ⟨blank, hblank, hsized⟩
  rcases last_pixel_of_not_complete h with ⟨last, hlast, hshort⟩
  have hpixel : ∀ p ∈ pixels img.sizeX img.sizeY, ∀ grid : Grid T,
      grid.Sized img.sizeX img.sizeY →
      (∃ grid', decodePixel ofBool img grid p = .ok grid' ∧ grid'.Sized img.sizeX img.sizeY) ∨
      decodePixel ofBool img grid p = .error .outOfRange := by
    intro p hp grid hgrid
    by_cases hlt : bitIndex img p < 8 * img.data.length
    . exact .inl (decodePixel_of_lt harea hp hlt ofBool hgrid)
    . exact .inr (decodePixel_of_le harea hp (by omega) ofBool grid)
  rw [ofImage_eq, hblank, Outcome.bind_ok]
  apply Outcome.foldlM_eq_error hpixel hlast
    (fun grid _ => decodePixel_of_le harea hlast hshort ofBool grid) hsized

theorem ofImage_cases (img : Proto.ImageData) (ofBool : Bool → T)
    : (img.NegativeArea ∧ ofImage ofBool img = .error (.exception "length_error")) ∨
      (img.Readable ∧ ∃ grid, ofImage ofBool img = .ok grid) ∨
      (¬ img.NegativeArea ∧ ¬ img.Readable ∧ ∃ fault, ofImage ofBool img = .error fault ∧
        (fault = .outOfRange ∨ fault = .intOverflow)) := by
  by_cases hneg : img.NegativeArea
  . exact .inl ⟨hneg, ofImage_of_negativeArea hneg ofBool⟩
  . by_cases harea : img.BadArea
    . have hreadable : ¬ img.Readable := fun h => h.1 harea
      exact .inr (.inr ⟨hneg, hreadable, _, ofImage_of_overflow harea hneg ofBool, .inr rfl⟩)
    . by_cases hcomplete : img.Complete
      . exact .inr (.inl ⟨⟨harea, hcomplete⟩, ofImage_of_complete harea hcomplete ofBool⟩)
      . have hreadable : ¬ img.Readable := fun h => hcomplete h.2
        have hfault := ofImage_of_not_complete harea hcomplete ofBool
        exact .inr (.inr ⟨hneg, hreadable, _, hfault, .inl rfl⟩)

end Grid

end Utils

namespace Proto

theorem ResponseGameInfo.fromProto_cases (x : ResponseGameInfo)
    : (ImagesFit (x.startRaw.getD {}).images ∧
        ((∃ info, x.fromProto = .ok info) ∨ ∃ what, x.fromProto = .error (.exception what))) ∨
      (¬ ImagesFit (x.startRaw.getD {}).images ∧ ∃ fault, x.fromProto = .error fault ∧
        (fault = .outOfRange ∨ fault = .intOverflow)) := by
  unfold ResponseGameInfo.fromProto StartRaw.images ImagesFit
  rcases Utils.Grid.ofImage_cases ((x.startRaw.getD {}).pathingGrid.getD {}) id
    with ⟨h₁, hgrid₁⟩ | ⟨h₁, grid₁, hgrid₁⟩ | ⟨hneg₁, h₁, fault, hfault, hrange⟩
  . simp [h₁, hgrid₁]
  . unfold ImagesFit
    rcases Utils.Grid.ofImage_cases ((x.startRaw.getD {}).terrainHeight.getD {}) Bool.toUInt8
      with ⟨h₂, hgrid₂⟩ | ⟨h₂, grid₂, hgrid₂⟩ | ⟨hneg₂, h₂, fault, hfault, hrange⟩
    . simp [h₁, hgrid₁, h₂, hgrid₂]
    . unfold ImagesFit
      rcases Utils.Grid.ofImage_cases ((x.startRaw.getD {}).placementGrid.getD {}) Bool.toUInt8
        with ⟨h₃, hgrid₃⟩ | ⟨h₃, grid₃, hgrid₃⟩ | ⟨hneg₃, h₃, fault, hfault, hrange⟩
      . simp [h₁, hgrid₁, h₂, hgrid₂, h₃, hgrid₃]
      . simp [h₁, hgrid₁, h₂, hgrid₂, h₃, hgrid₃, ImagesFit]
      . simp [h₁.not_negativeArea, hgrid₁, h₂.not_negativeArea, hgrid₂, hneg₃, h₃, hfault, hrange]
    . simp [h₁.not_negativeArea, hgrid₁, hneg₂, h₂, hfault, hrange]
  . simp [hneg₁, h₁, hfault, hrange]

theorem ResponseGameInfo.fromProto_default
    : ∃ info, ({} : ResponseGameInfo).fromProto = .ok info := by
  exact ⟨_, rfl⟩

end Proto

end Sc2
