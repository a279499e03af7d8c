import Sc2pp.Util.Fault
import Mathlib.Logic.Function.Basic

/-!
This module contains painting. A canvas gives every point a colour. Painting a region gives each of
its points the colour it has on a palette, in whatever order and however often they are written. A
loop that writes points of some data structure paints regions of the canvas that this data structure
represents.
-/

namespace Canvas

variable {α β σ ι ε : Type} [DecidableEq α]

def paint (canvas : α → β) (region : List α) (colour : α → β) : α → β :=
  fun p => if p ∈ region then colour p else canvas p

theorem paint_apply (canvas : α → β) (region : List α) (colour : α → β) (p : α)
    : paint canvas region colour p = if p ∈ region then colour p else canvas p := by
  rfl

@[simp]
theorem paint_nil (canvas : α → β) (colour : α → β) : paint canvas [] colour = canvas := by
  funext p
  simp [paint]

theorem paint_singleton (canvas : α → β) (p : α) (colour : α → β)
    : paint canvas [p] colour = Function.update canvas p (colour p) := by
  funext q
  by_cases h : q = p
  . subst h
    simp [paint]
  . simp [paint, h]

theorem paint_paint (canvas : α → β) (r₁ r₂ : List α) (colour : α → β)
    : paint (paint canvas r₁ colour) r₂ colour = paint canvas (r₁ ++ r₂) colour := by
  funext p
  by_cases h₁ : p ∈ r₁ <;> by_cases h₂ : p ∈ r₂ <;> simp [paint, h₁, h₂]

theorem paint_congr {r₁ r₂ : List α} (h : ∀ p, p ∈ r₁ ↔ p ∈ r₂) (canvas : α → β) (colour : α → β)
    : paint canvas r₁ colour = paint canvas r₂ colour := by
  funext p
  simp only [paint, h]

/--
In every state that satisfies `Good`, the loop body `f` succeeds on the item `i`, keeps `Good` and
paints `region i` on the canvas `view` shows.
-/
def Paints (Good : σ → Prop) (view : σ → α → β) (f : σ → ι → Except ε σ) (region : ι → List α)
    (colour : α → β) (i : ι) : Prop :=
  ∀ s, Good s → ∃ s', f s i = .ok s' ∧ Good s' ∧ view s' = paint (view s) (region i) colour

theorem Paints.foldlM {Good : σ → Prop} {view : σ → α → β} {f : σ → ι → Except ε σ}
    {region : ι → List α} {colour : α → β} {is : List ι}
    (h : ∀ i ∈ is, Paints Good view f region colour i) (s : σ) (hs : Good s)
    : ∃ s', is.foldlM f s = .ok s' ∧ Good s' ∧
        view s' = paint (view s) (is.flatMap region) colour := by
  induction is generalizing s with
  | nil => exact ⟨s, rfl, hs, by simp⟩
  | cons i is ih =>
    rcases h i (by simp) s hs with ⟨s₁, hs₁, hgood₁, hview₁⟩
    rcases ih (fun j hj => h j (by simp [hj])) s₁ hgood₁ with ⟨s₂, hs₂, hgood₂, hview₂⟩
    refine ⟨s₂, ?_, hgood₂, ?_⟩
    . simp [List.foldlM_cons, hs₁, hs₂]
    . rw [hview₂, hview₁, paint_paint, List.flatMap_cons]

end Canvas
