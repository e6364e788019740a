import Marquee.Proofs.Picture.Plane
import Marquee.Proofs.Picture.Window

/-!
# Images as parts of planes

Writing a pixel of an image changes what is read there and nothing else, and outside the image it
changes nothing (`Raster.get_set`, `Raster.get_plot`). So an image that shows a part of a plane goes
on showing the same part whatever is drawn on both (`Raster.Shows.draw`): what lies beyond an edge
is lost and does not come back on another side.
-/

namespace Marquee.Raster

variable {w h : Nat}

/-! ## Reading what was written -/

theorem get_dark (x y : Nat) : (dark w h).get x y = false := by
  rw [get]
  rcases Nat.lt_or_ge x w with hx | hx
  · rw [Vector.getElem?_eq_getElem hx, dark]
    simp
  · rw [Vector.getElem?_eq_none hx]

/-- Outside its edges an image is dark. -/
theorem get_eq_and (image : Raster w h) (x y : Nat) :
    image.get x y = (decide (x < w ∧ y < h) && image.get x y) := by
  by_cases inside : x < w ∧ y < h
  · rw [decide_eq_true inside, Bool.true_and]
  · rw [decide_eq_false inside, Bool.false_and, get]
    rcases Nat.lt_or_ge x w with hx | hx
    · rw [Vector.getElem?_eq_getElem hx]
      exact BitVec.getLsbD_of_ge _ _ (by omega)
    · rw [Vector.getElem?_eq_none hx]

/-- Images of one size are told apart by their pixels alone. -/
theorem ext_get {image other : Raster w h} (same : ∀ x y, image.get x y = other.get x y) :
    image = other := by
  refine Raster.ext (Vector.ext fun x hx => BitVec.eq_of_getLsbD_eq fun y hy => ?_)
  have hpixel := same x y
  rw [get, get, Vector.getElem?_eq_getElem hx, Vector.getElem?_eq_getElem hx] at hpixel
  exact hpixel

theorem getLsbD_lit (column : BitVec h) {y : Nat} (hy : y < h) (y' : Nat) :
    (column ||| BitVec.twoPow h y).getLsbD y' = (decide (y' = y) || column.getLsbD y') := by
  rw [BitVec.getLsbD_or, BitVec.getLsbD_twoPow, decide_eq_true hy, Bool.true_and, Bool.or_comm]
  exact congrArg (· || _) (decide_eq_decide.mpr eq_comm)

theorem getLsbD_darkened (column : BitVec h) (y y' : Nat) :
    (column &&& ~~~BitVec.twoPow h y).getLsbD y' =
      (!decide (y' = y) && column.getLsbD y') := by
  rcases Nat.lt_or_ge y' h with hy' | hy'
  · rw [BitVec.getLsbD_and, BitVec.getLsbD_not, BitVec.getLsbD_twoPow, decide_eq_true hy',
      Bool.true_and, Bool.and_comm]
    by_cases heq : y' = y
    · subst heq
      simp [hy']
    · simp [heq, Ne.symm heq]
  · rw [BitVec.getLsbD_of_ge _ _ hy', BitVec.getLsbD_of_ge _ _ hy', Bool.and_false]

/-- A row of a column that was written, and the others as they were. -/
theorem getLsbD_written (column : BitVec h) {y : Nat} (hy : y < h) (on : Bool) (y' : Nat) :
    (if on then column ||| BitVec.twoPow h y else column &&& ~~~BitVec.twoPow h y).getLsbD y' =
      if y' = y then on else column.getLsbD y' := by
  cases on with
  | true =>
    rw [if_pos rfl, getLsbD_lit column hy]
    by_cases heq : y' = y <;> simp [heq]
  | false =>
    rw [if_neg (by decide), getLsbD_darkened]
    by_cases heq : y' = y <;> simp [heq]

/-- What was written last is read, and only there. -/
theorem get_set (image : Raster w h) (x y : Nat) (on : Bool) (x' y' : Nat) :
    (image.set x y on).get x' y' =
      if x' = x ∧ y' = y ∧ x < w ∧ y < h then on else image.get x' y' := by
  by_cases inside : x < w ∧ y < h
  · rw [set, dif_pos inside]
    by_cases hx : x' = x
    · subst hx
      simp only [get, Vector.getElem?_eq_getElem inside.1, Vector.getElem_set_self,
        getLsbD_written _ inside.2, inside, true_and, and_true]
    · simp only [get, Vector.getElem?_set_ne _ (Ne.symm hx), hx, false_and, if_false]
  · rw [set, dif_neg inside, if_neg fun hall => inside hall.2.2]

/-- A pixel beyond an edge is not drawn. -/
theorem get_plot (image : Raster w h) (p : Pixel) (x y : Nat) :
    (image.plot p).get x y =
      if (x : Int) = p.x ∧ (y : Int) = p.y ∧ x < w ∧ y < h then p.on else image.get x y := by
  rw [plot]
  split
  · rw [if_neg (by omega)]
  · rw [get_set]
    have hplace : (x = p.x.toNat ∧ y = p.y.toNat ∧ p.x.toNat < w ∧ p.y.toNat < h) ↔
        ((x : Int) = p.x ∧ (y : Int) = p.y ∧ x < w ∧ y < h) := by
      omega
    rw [ite_cond_congr (propext hplace)]

theorem toList_toBitmap (image : PanelRaster) :
    image.toBitmap.toList =
      (List.range panelWidth).map fun x => columnByte panelHeight (image.get x) :=
  toList_windowAt_wide image rfl

/-! ## Changes in a row -/

theorem plot_natCast (image : Raster w h) (x y : Nat) (on : Bool) :
    image.plot ⟨x, y, on⟩ = image.set x y on := by
  have hinside : ¬((x : Int) < 0 ∨ (y : Int) < 0) := by omega
  exact if_neg hinside

theorem edit_eq_draw (image : Raster w h) (edit : ImageEdit) :
    image.edit edit = image.draw edit.writes := by
  cases edit with
  | set x y on => exact (image.plot_natCast x y on).symm
  | draw pixels => rfl

/-- A series of changes is one drawing of all the pixels that it writes. -/
theorem editAll_eq_draw (image : Raster w h) (edits : List ImageEdit) :
    image.editAll edits = image.draw (edits.flatMap ImageEdit.writes) := by
  rw [editAll, draw, List.foldl_flatMap]
  congr 1
  funext image edit
  exact image.edit_eq_draw edit

/-! ## Showing a plane -/

/-- The image is the part of the plane between its edges. -/
def Shows (image : Raster w h) (plane : Plane) : Prop :=
  ∀ x y : Nat, image.get x y = (decide (x < w ∧ y < h) && plane x y)

theorem shows_dark : (dark w h).Shows Plane.dark := by
  intro x y
  rw [get_dark, Plane.dark, Bool.and_false]

namespace Shows

variable {image : Raster w h} {plane : Plane}

theorem plot (shows : image.Shows plane) (p : Pixel) : (image.plot p).Shows (plane.plot p) := by
  intro x y
  rw [get_plot, shows x y, Plane.plot]
  by_cases inside : x < w ∧ y < h
  · simp only [inside, and_true, decide_true, Bool.true_and]
  · rw [if_neg fun hall => inside hall.2.2, decide_eq_false inside, Bool.false_and,
      Bool.false_and]

/-- An image and a plane stay in step while the same is drawn on both. -/
theorem draw (shows : image.Shows plane) (pixels : List Pixel) :
    (image.draw pixels).Shows (plane.draw pixels) := by
  induction pixels generalizing image plane with
  | nil => exact shows
  | cons p rest ih => exact ih (shows.plot p)

/-- The bitmap of a panel image has the columns of the plane that the image shows. -/
theorem toBitmap {image : PanelRaster} (shows : image.Shows plane) :
    image.toBitmap.toList = (List.range panelWidth).map fun i : Nat => plane.column i := by
  rw [image.toList_toBitmap]
  refine List.map_congr_left fun i hi => columnByte_congr fun row hrow => ?_
  rw [shows i row, decide_eq_true ⟨List.mem_range.mp hi, hrow⟩, Bool.true_and]

end Shows

/-- Inside its edges a drawn image shows what was written last. -/
theorem get_draw_dark (pixels : List Pixel) (x y : Nat) :
    ((dark w h).draw pixels).get x y =
      if x < w ∧ y < h then (lastWritten? pixels x y).getD false else false := by
  rw [shows_dark.draw pixels x y, Plane.draw_eq, Plane.dark]
  by_cases inside : x < w ∧ y < h <;> simp [inside]

end Marquee.Raster
