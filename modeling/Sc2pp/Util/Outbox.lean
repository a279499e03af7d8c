import Mathlib.Data.List.Basic

/-!
This module contains outboxes: something collects items one by one and hands over all it has
collected whenever it is flushed. `Refines` says that an implementation with a state and parcels of
its own is an outbox, `run` feeds it events and records the parcels. Nothing is lost, duplicated or
reordered in a run: what the parcels hold, followed by what is still pending, is what was pushed.
-/

namespace Outbox

inductive Event (κ : Type) where
  | push (c : κ)
  | flush
  deriving DecidableEq, Repr

variable {κ σ α β : Type}

def pushes : List (Event κ) → List κ
  | [] => []
  | .push c :: es => c :: pushes es
  | .flush :: es => pushes es

def unflushed : List (Event κ) → List κ :=
  List.foldl (fun cs e =>
    match e with
    | .push c => cs ++ [c]
    | .flush => []) []

def run (push : σ → κ → σ) (flush : σ → β × σ) (s : σ) : List (Event κ) → List β × σ
  | [] => ([], s)
  | .push c :: es => run push flush (push s c) es
  | .flush :: es =>
    let (parcel, s) := flush s
    let (parcels, s) := run push flush s es
    (parcel :: parcels, s)

structure Refines (Inv : σ → Prop) (push : σ → κ → σ) (flush : σ → β × σ) (pending : σ → List α)
    (content : β → List α) (item : κ → α) : Prop where
  inv_push : ∀ s c, Inv s → Inv (push s c)
  inv_flush : ∀ s, Inv s → Inv (flush s).2
  pending_push : ∀ s c, Inv s → pending (push s c) = pending s ++ [item c]
  pending_flush : ∀ s, Inv s → pending (flush s).2 = []
  content_flush : ∀ s, Inv s → content (flush s).1 = pending s

namespace Refines

variable {Inv : σ → Prop} {push : σ → κ → σ} {flush : σ → β × σ} {pending : σ → List α}
  {content : β → List α} {item : κ → α}

theorem run_inv (h : Refines Inv push flush pending content item) {s : σ} (hs : Inv s)
    (es : List (Event κ)) : Inv (run push flush s es).2 := by
  induction es generalizing s with
  | nil => exact hs
  | cons e es ih =>
    cases e with
    | push c => exact ih (h.inv_push s c hs)
    | flush => exact ih (h.inv_flush s hs)

theorem run_content (h : Refines Inv push flush pending content item) {s : σ} (hs : Inv s)
    (es : List (Event κ))
    : (run push flush s es).1.flatMap content ++ pending (run push flush s es).2
        =
      pending s ++ (pushes es).map item := by
  induction es generalizing s with
  | nil => simp [run, pushes]
  | cons e es ih =>
    cases e with
    | push c =>
      simp only [run, pushes, List.map_cons]
      rw [ih (h.inv_push s c hs), h.pending_push s c hs, List.append_assoc, List.singleton_append]
    | flush =>
      simp only [run, pushes, List.flatMap_cons, List.append_assoc]
      rw [ih (h.inv_flush s hs), h.content_flush s hs, h.pending_flush s hs, List.nil_append]

theorem run_pending (h : Refines Inv push flush pending content item) {s : σ} (hs : Inv s)
    (es : List (Event κ)) (cs : List κ) (hcs : pending s = cs.map item)
    : pending (run push flush s es).2
        =
      (es.foldl (fun cs e =>
        match e with
        | .push c => cs ++ [c]
        | .flush => []) cs).map item := by
  induction es generalizing s cs with
  | nil => exact hcs
  | cons e es ih =>
    cases e with
    | push c =>
      apply ih (h.inv_push s c hs)
      rw [h.pending_push s c hs, hcs, List.map_append, List.map_singleton]
    | flush =>
      apply ih (h.inv_flush s hs)
      rw [h.pending_flush s hs, List.map_nil]

theorem foldl_push (h : Refines Inv push flush pending content item) {s : σ} (hs : Inv s)
    (cs : List κ)
    : Inv (cs.foldl push s) ∧ pending (cs.foldl push s) = pending s ++ cs.map item := by
  induction cs generalizing s with
  | nil => exact ⟨hs, by simp⟩
  | cons c cs ih =>
    rcases ih (h.inv_push s c hs) with ⟨hinv, hpending⟩
    refine ⟨hinv, ?_⟩
    rw [List.foldl_cons, hpending, h.pending_push s c hs, List.append_assoc, List.map_cons,
      List.singleton_append]

end Refines

end Outbox
