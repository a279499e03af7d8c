import Sc2pp.Lemmas.Circle

/-!
This module contains the shape of a drawn circle. Neighbouring rows of an octant are linked, the
octants meet at the diagonals, and every drawn pixel is an image of one on the first octant.
-/

namespace Sc2.Utils

namespace Circle

def Neighbours (o o' : Point2DI) : Prop :=
  (-1 ≤ o'.x - o.x ∧ o'.x - o.x ≤ 1) ∧ (-1 ≤ o'.y - o.y ∧ o'.y - o.y ≤ 1)

structure Shape (r : Int) (S : Point2DI → Prop) : Prop where
  bounds : ∀ o, S o → (-r ≤ o.x ∧ o.x ≤ r) ∧ (-r ≤ o.y ∧ o.y ≤ r)
  symmetric : ∀ o, S o → ∀ o' ∈ octants o.x o.y, S o'
  axes : S ⟨r, 0⟩ ∧ S ⟨-r, 0⟩ ∧ S ⟨0, r⟩ ∧ S ⟨0, -r⟩
  connected : ∀ o o', S o → S o' → Relation.ReflTransGen (fun a b => Neighbours a b ∧ S b) o o'
  above : ∀ k, -r ≤ k → k ≤ r → ∃ y, 0 ≤ y ∧ S ⟨k, y⟩
  below : ∀ k, -r ≤ k → k ≤ r → ∃ y, y ≤ 0 ∧ S ⟨k, y⟩

def mirror (o : Point2DI) : Point2DI :=
  ⟨-o.x, o.y⟩

def transpose (o : Point2DI) : Point2DI :=
  ⟨o.y, o.x⟩

variable {r : Int} {o o' : Point2DI}

theorem OnArc.drawn {x y : Int} (h : OnArc r x y) : Drawn r ⟨x, y⟩ := by
  exact ⟨x, y, h, by simp [octants]⟩

theorem Drawn.mirror (h : Drawn r o) : Drawn r (mirror o) := by
  rcases h with ⟨x, y, harc, ho⟩
  refine ⟨x, y, harc, ?_⟩
  simp only [octants, List.mem_cons, List.not_mem_nil, or_false] at ho ⊢
  rcases ho with rfl | rfl | rfl | rfl | rfl | rfl | rfl | rfl <;> simp [Circle.mirror]

theorem Drawn.transpose (h : Drawn r o) : Drawn r (transpose o) := by
  rcases h with ⟨x, y, harc, ho⟩
  refine ⟨x, y, harc, ?_⟩
  simp only [octants, List.mem_cons, List.not_mem_nil, or_false] at ho ⊢
  rcases ho with rfl | rfl | rfl | rfl | rfl | rfl | rfl | rfl <;> simp [Circle.transpose]

-- The two reflections generate the symmetries of the square.
theorem octants_eq (o : Point2DI)
    : octants o.x o.y = [
        o,
        transpose o,
        mirror (transpose o),
        mirror o,
        transpose (mirror (transpose (mirror o))),
        transpose (mirror (transpose (mirror (transpose o)))),
        transpose (mirror o),
        transpose (mirror (transpose o))
      ] := by
  rfl

theorem Drawn.octants (h : Drawn r o) (ho : o' ∈ octants o.x o.y) : Drawn r o' := by
  rw [octants_eq] at ho
  simp only [List.mem_cons, List.not_mem_nil, or_false] at ho
  rcases ho with rfl | rfl | rfl | rfl | rfl | rfl | rfl | rfl
  . exact h
  . apply h.transpose
  . apply h.transpose.mirror
  . apply h.mirror
  . apply h.mirror.transpose.mirror.transpose
  . apply h.transpose.mirror.transpose.mirror.transpose
  . apply h.mirror.transpose
  . apply h.transpose.mirror.transpose

def Link (r : Int) (o o' : Point2DI) : Prop :=
  (Drawn r o ∧ Drawn r o') ∧ Neighbours o o'

def Linked (r : Int) : Point2DI → Point2DI → Prop :=
  Relation.ReflTransGen (Link r)

instance : Std.Symm (Link r) where
  symm a b h := by
    rcases h with ⟨⟨ha, hb⟩, hneighbours⟩
    refine ⟨⟨hb, ha⟩, ?_⟩
    unfold Neighbours at hneighbours ⊢
    omega

theorem Linked.symm (h : Linked r o o') : Linked r o' o := by
  apply Relation.ReflTransGen.stdSymm.symm _ _ h

theorem Linked.mirror (h : Linked r o o') : Linked r (mirror o) (mirror o') := by
  apply Relation.ReflTransGen.lift Circle.mirror _ _ _ h
  intro a b hab
  rcases hab with ⟨⟨ha, hb⟩, hneighbours⟩
  refine ⟨⟨ha.mirror, hb.mirror⟩, ?_⟩
  unfold Neighbours at hneighbours ⊢
  simp only [Circle.mirror]
  omega

theorem Linked.transpose (h : Linked r o o') : Linked r (transpose o) (transpose o') := by
  apply Relation.ReflTransGen.lift Circle.transpose _ _ _ h
  intro a b hab
  rcases hab with ⟨⟨ha, hb⟩, hneighbours⟩
  refine ⟨⟨ha.transpose, hb.transpose⟩, ?_⟩
  unfold Neighbours at hneighbours ⊢
  simp only [Circle.transpose]
  omega

theorem linked_arc (hr : 0 ≤ r) {x y : Int} (h : OnArc r x y) : Linked r ⟨r, 0⟩ ⟨x, y⟩ := by
  rcases Int.eq_ofNat_of_zero_le h.nonneg with ⟨n, hn⟩
  induction n generalizing x y with
  | zero =>
    rw [hn] at h ⊢
    rw [h.unique (onArc_start hr)]
    exact .refl
  | succ n ih =>
    have hrow : y = (n : Int) + 1 := by omega
    rw [hrow] at h ⊢
    rcases h.row_before (by omega) with hbefore | hbefore
    . apply (ih hbefore rfl).tail ⟨⟨hbefore.drawn, h.drawn⟩, _⟩
      unfold Neighbours
      simp only
      omega
    . apply (ih hbefore rfl).tail ⟨⟨hbefore.drawn, h.drawn⟩, _⟩
      unfold Neighbours
      simp only
      omega

theorem linked_quarter (hr : 0 ≤ r) : Linked r ⟨r, 0⟩ ⟨0, r⟩ := by
  rcases exists_last hr with ⟨x, y, harc, hlast⟩
  have hle := harc.le
  have hseam : Link r ⟨x, y⟩ ⟨y, x⟩ := by
    refine ⟨⟨harc.drawn, harc.drawn.transpose⟩, ?_⟩
    unfold Neighbours
    simp only
    omega
  have hoctant := linked_arc hr harc
  apply (hoctant.tail hseam).trans hoctant.transpose.symm

theorem linked_west (hr : 0 ≤ r) : Linked r ⟨r, 0⟩ ⟨-r, 0⟩ := by
  have hquarter := linked_quarter hr
  have hmirrored := hquarter.mirror
  simp only [mirror, Int.neg_zero] at hmirrored
  apply hquarter.trans hmirrored.symm

theorem linked_south (hr : 0 ≤ r) : Linked r ⟨r, 0⟩ ⟨0, -r⟩ := by
  apply (linked_quarter hr).trans (linked_west hr).transpose

theorem linked_drawn (hr : 0 ≤ r) (h : Drawn r o) : Linked r ⟨r, 0⟩ o := by
  rcases h with ⟨x, y, harc, ho⟩
  have hoctant := linked_arc hr harc
  have hwest := linked_west hr
  have hnorth := linked_quarter hr
  have hsouth := linked_south hr
  have hmirror : ∀ {o}, Linked r ⟨-r, 0⟩ o → Linked r ⟨r, 0⟩ o := hwest.trans
  rw [octants_eq ⟨x, y⟩] at ho
  simp only [List.mem_cons, List.not_mem_nil, or_false] at ho
  rcases ho with rfl | rfl | rfl | rfl | rfl | rfl | rfl | rfl
  . exact hoctant
  . apply hnorth.trans hoctant.transpose
  . have himage := hoctant.transpose.mirror
    simp only [mirror, transpose, Int.neg_zero] at himage ⊢
    apply hnorth.trans himage
  . apply hwest.trans hoctant.mirror
  . have himage := hoctant.mirror.transpose.mirror.transpose
    simp only [mirror, transpose, Int.neg_zero] at himage ⊢
    apply hwest.trans himage
  . have himage := hoctant.transpose.mirror.transpose.mirror.transpose
    simp only [mirror, transpose, Int.neg_zero] at himage ⊢
    apply hsouth.trans himage
  . apply hsouth.trans hoctant.mirror.transpose
  . have himage := hoctant.transpose.mirror.transpose
    simp only [mirror, transpose, Int.neg_zero] at himage ⊢
    exact himage

theorem drawn_connected (hr : 0 ≤ r) (ho : Drawn r o) (ho' : Drawn r o')
    : Relation.ReflTransGen (fun a b => Neighbours a b ∧ Drawn r b) o o' := by
  have hlinked : Linked r o o' := (linked_drawn hr ho).symm.trans (linked_drawn hr ho')
  apply Relation.ReflTransGen.mono _ _ _ hlinked
  intro a b hab
  exact ⟨hab.2, hab.1.2⟩

theorem drawn_row {x y k : Int} (h : OnArc r x y) (hk : 0 ≤ k) (hle : k ≤ y)
    : ∃ x', OnArc r x' k := by
  rcases Int.le.dest hle with ⟨n, hn⟩
  induction n generalizing x y with
  | zero => exact ⟨x, by rwa [show k = y by omega]⟩
  | succ n ih =>
    have hrow : y = k + n + 1 := by omega
    rw [hrow] at h
    rcases h.row_before (by omega) with hbefore | hbefore
    . apply ih hbefore (by omega) rfl
    . apply ih hbefore (by omega) rfl

theorem drawn_column {k : Int} (hk : 0 ≤ k) (hkr : k ≤ r) : ∃ y, 0 ≤ y ∧ Drawn r ⟨k, y⟩ := by
  have hr : 0 ≤ r := by omega
  rcases exists_last hr with ⟨x, y, harc, hlast⟩
  by_cases hx : x ≤ k
  . rcases harc.column hr hx hkr with ⟨y', harc'⟩
    exact ⟨y', harc'.nonneg, harc'.drawn⟩
  . -- The column lies in the octant above the diagonal, which is the transposed one.
    rcases drawn_row harc hk (by omega) with ⟨x', harc'⟩
    have hle := harc'.le
    exact ⟨x', by omega, harc'.drawn.transpose⟩

theorem drawn_shape (hr : 0 ≤ r) : Shape r (Drawn r) where
  bounds _ h := h.bounds hr
  symmetric _ h _ ho' := h.octants ho'
  axes := by
    have heast := (onArc_start hr).drawn
    refine ⟨heast, ?_, heast.transpose, ?_⟩
    . apply heast.mirror
    . apply heast.mirror.transpose
  connected _ _ := drawn_connected hr
  above k hle hge := by
    by_cases hk : 0 ≤ k
    . apply drawn_column hk hge
    . rcases drawn_column (r := r) (k := -k) (by omega) (by omega) with ⟨y, hy, hdrawn⟩
      have hmirror := hdrawn.mirror
      simp only [mirror, Int.neg_neg] at hmirror
      exact ⟨y, hy, hmirror⟩
  below k hle hge := by
    by_cases hk : 0 ≤ k
    . rcases drawn_column hk hge with ⟨y, hy, hdrawn⟩
      exact ⟨-y, by omega, hdrawn.octants (by simp [Circle.octants])⟩
    . rcases drawn_column (r := r) (k := -k) (by omega) (by omega) with ⟨y, hy, hdrawn⟩
      exact ⟨-y, by omega, hdrawn.octants (by simp [Circle.octants])⟩

end Circle

open Drawing in
theorem drawCirle_shape {T : Type} {g : Grid T} {center : Point2DI} {r : Int}
    (hsquare : SquareInside g center r) (value : T)
    : ∃ n d, (loop center value).Ends (start g r) n (.inr d) ∧
        drawCirle g center r value = .ok d.g ∧ d.g.Sized g.width g.height ∧
        (∀ p, d.g.cell p = if p ∈ d.written then some value else g.cell p) ∧
        (r < 0 → d.written = []) ∧
        (0 ≤ r → Circle.Shape r fun o => center.add o ∈ d.written) := by
  rcases (loop center value).ends_run (start g r) with ⟨n, -, hends⟩
  unfold drawCirle
  by_cases hr : 0 ≤ r
  . rcases run_drew value hsquare hr with ⟨d, hrun, hdrew⟩
    rw [hrun] at hends ⊢
    refine ⟨n, d, hends, rfl, hdrew.sized, hdrew.cell, by omega, ?_⟩
    intro _
    have hdrawn : (fun o => center.add o ∈ d.written) = Circle.Drawn r := by
      funext o
      rw [hdrew.mem_written_add]
    rw [hdrawn]
    apply Circle.drawn_shape hr
  . rw [run_of_neg (by omega)] at hends ⊢
    refine ⟨n, start g r, hends, rfl, ⟨rfl, rfl⟩, ?_, fun _ => rfl, by omega⟩
    intro p
    simp [start]

def sheet : Grid Char where
  width := 9
  height := 10
  cells := List.replicate 90 '.'
  length_cells := by simp
  area_lt := by decide

theorem drawCirle_shape_sheet
    : ∃ g, drawCirle sheet ⟨4, 4⟩ 2 'o' = .ok g ∧ g.cell ⟨6, 4⟩ = some 'o' ∧
        g.cell ⟨2, 4⟩ = some 'o' := by
  have hsquare : Drawing.SquareInside sheet ⟨4, 4⟩ 2 := by
    intro o hx hy
    simp only [Grid.Inside, sheet, Point2DI.add_x, Point2DI.add_y]
    omega
  rcases drawCirle_shape hsquare 'o' with ⟨n, d, -, hdraw, -, hcell, -, hshape⟩
  have haxes := (hshape (by decide)).axes
  refine ⟨d.g, hdraw, ?_, ?_⟩
  . rw [hcell]
    apply if_pos haxes.1
  . rw [hcell]
    apply if_pos haxes.2.1

end Sc2.Utils
