import Marquee.Proofs.Picture.Raster
import Mathlib.Algebra.BigOperators.Fin
import Mathlib.Algebra.Order.BigOperators.Group.Finset
import Mathlib.Data.Nat.Count
import Mathlib.Data.Set.Card

/-!
# Images in bytes show what was written

Every image whose height is a number of its type has a form in bytes, in which no bit past the
height is set (`Raster.packed`). Writing a pixel and drawing come to the same in both forms
(`Raster.packed_set`, `Raster.packed_editAll`), and so an image in bytes that has been changed in
any way has no such bit either: whole bytes may be counted and compared.
-/

namespace Marquee

/-! ## Columns as bytes -/

namespace PackedImage

variable {h : Nat}

/-- A column as a byte. -/
def packColumn (column : BitVec h) : UInt8 := ⟨column.setWidth 8⟩

/-- Bit `y` of a packed column is row `y`. -/
theorem getLsbD_packColumn (low : h ≤ maxImageHeight) (column : BitVec h) (y : Nat) :
    (packColumn column).toBitVec.getLsbD y = column.getLsbD y := by
  rw [packColumn, BitVec.getLsbD_setWidth]
  unfold maxImageHeight at low
  rcases Nat.lt_or_ge y 8 with hy | hy
  · rw [decide_eq_true hy, Bool.true_and]
  · rw [decide_eq_false (by omega), Bool.false_and, BitVec.getLsbD_of_ge _ _ (by omega)]

/-- The mask of a row has the one bit of that row. -/
theorem toBitVec_rowMask {y : Nat} (hy : y < 8) : (rowMask y).toBitVec = BitVec.twoPow 8 y := by
  have hmasks : ∀ y < 8, (rowMask y).toBitVec = BitVec.twoPow 8 y := by decide
  exact hmasks y hy

/-- A mask reads its row of a byte. -/
theorem and_rowMask_ne_zero (byte : UInt8) {y : Nat} (hy : y < 8) :
    (byte &&& rowMask y != 0) = byte.toBitVec.getLsbD y := by
  have hmask : (byte &&& rowMask y = 0) ↔ byte.toBitVec.getLsbD y = false := by
    rw [← UInt8.toBitVec_inj, UInt8.toBitVec_and, toBitVec_rowMask hy, BitVec.and_twoPow]
    cases byte.toBitVec.getLsbD y with
    | false => simp
    | true =>
      refine iff_of_false (fun hzero => ?_) (by decide)
      have hbit := congrArg (fun bits => bits.getLsbD y) hzero
      simp [hy] at hbit
  cases hbit : byte.toBitVec.getLsbD y with
  | false => rw [hmask.mpr hbit]; rfl
  | true =>
    have hne : byte &&& rowMask y ≠ 0 := fun hzero => by
      rw [hmask.mp hzero] at hbit
      cases hbit
    exact bne_iff_ne.mpr hne

/-- A row is written in the same way to a column and to its byte. -/
theorem packColumn_written (low : h ≤ maxImageHeight) (column : BitVec h) {y : Nat} (hy : y < h)
    (on : Bool) :
    packColumn
        (if on then column ||| BitVec.twoPow h y else column &&& ~~~BitVec.twoPow h y) =
      if on then packColumn column ||| rowMask y else packColumn column &&& ~~~rowMask y := by
  have hy8 : y < 8 := Nat.lt_of_lt_of_le hy low
  rw [← UInt8.toBitVec_inj, apply_ite UInt8.toBitVec, UInt8.toBitVec_or, UInt8.toBitVec_and,
    UInt8.toBitVec_not, toBitVec_rowMask hy8]
  refine BitVec.eq_of_getLsbD_eq fun row _ => ?_
  rw [getLsbD_packColumn low, Raster.getLsbD_written column hy, Raster.getLsbD_written _ hy8,
    getLsbD_packColumn low]

/-- All bits of a column's byte are rows of the column. -/
theorem countOnes_packColumn (low : h ≤ maxImageHeight) (column : BitVec h) :
    countOnes (packColumn column) = (List.range h).countP column.getLsbD := by
  unfold maxImageHeight at low
  have hbits : (packColumn column).toBitVec.getLsbD = column.getLsbD :=
    funext (getLsbD_packColumn low column)
  obtain ⟨rest, hrest⟩ : ∃ rest, 8 = h + rest := ⟨8 - h, by omega⟩
  have hpast : ((List.range rest).map (h + ·)).countP column.getLsbD = 0 := by
    rw [List.countP_eq_zero]
    intro y hy
    obtain ⟨past, -, rfl⟩ := List.mem_map.mp hy
    rw [BitVec.getLsbD_of_ge _ _ (Nat.le_add_right h past)]
    exact Bool.false_ne_true
  rw [countOnes, hbits, hrest, List.range_add, List.countP_append, hpast, Nat.add_zero]

end PackedImage

/-! ## The two forms of an image -/

namespace Raster

variable {w h : Nat}

/-- The image in bytes. -/
def packed (image : Raster w h) : PackedImage w :=
  ⟨image.columns.map PackedImage.packColumn, h⟩

theorem height_packed (image : Raster w h) : image.packed.height = h := rfl

theorem packed_dark (w h : Nat) : (dark w h).packed = ⟨Vector.replicate w 0, h⟩ := by
  have hcolumn : PackedImage.packColumn (0 : BitVec h) = 0 :=
    UInt8.toBitVec_inj.mp (BitVec.setWidth_zero 8 h)
  rw [packed, dark, Vector.map_replicate, hcolumn]

/-- A new image is dark in both forms, with the height cut down to eight rows. -/
theorem packed_new (w wanted : Nat) : (new w wanted).packed = PackedImage.new w wanted :=
  packed_dark w _

section Low

variable (low : h ≤ maxImageHeight)

include low

/-- Both forms have the same pixels. -/
theorem get_packed (image : Raster w h) (x y : Nat) : image.packed.get x y = image.get x y := by
  rw [PackedImage.get, packed]
  dsimp only
  rcases Nat.lt_or_ge y h with hy | hy
  · rw [if_pos hy, get, Vector.getElem?_map]
    cases image.columns[x]? with
    | none => rfl
    | some column =>
      exact (PackedImage.and_rowMask_ne_zero _ (Nat.lt_of_lt_of_le hy low)).trans
        (PackedImage.getLsbD_packColumn low column y)
  · rw [if_neg (Nat.not_lt_of_le hy), image.get_eq_and, decide_eq_false (by omega),
      Bool.false_and]

/-- Packed images are equal exactly if their heights are and all of their pixels. -/
theorem packed_eq_iff {h' : Nat} (low' : h' ≤ maxImageHeight) (image : Raster w h)
    (other : Raster w h') :
    image.packed = other.packed ↔
      h = h' ∧ ∀ x y, image.packed.get x y = other.packed.get x y := by
  constructor
  · intro heq
    exact ⟨congrArg PackedImage.height heq, fun x y => by rw [heq]⟩
  · rintro ⟨rfl, same⟩
    refine congrArg packed (ext_get fun x y => ?_)
    rw [← get_packed low, same, get_packed low]

/-- Setting a pixel comes to the same in both forms. -/
theorem packed_set (image : Raster w h) (x y : Nat) (on : Bool) :
    (image.set x y on).packed = image.packed.set x y on := by
  rw [PackedImage.set, height_packed]
  rcases Nat.lt_or_ge y h with hy | hy
  · rw [if_neg (Nat.not_le_of_lt hy)]
    by_cases hx : x < w
    · rw [dif_pos hx, set, dif_pos ⟨hx, hy⟩]
      simp only [packed, Vector.map_set, Vector.getElem_map,
        PackedImage.packColumn_written low _ hy]
    · rw [dif_neg hx, set, dif_neg fun inside => hx inside.1]
  · rw [if_pos hy, set, dif_neg fun inside => Nat.not_lt_of_le hy inside.2]

theorem packed_plot (image : Raster w h) (p : Pixel) :
    (image.plot p).packed = image.packed.plot p := by
  rw [plot, PackedImage.plot]
  split
  · rfl
  · exact image.packed_set low _ _ _

/-- Drawing pixels comes to the same in both forms. -/
theorem packed_draw (image : Raster w h) (pixels : List Pixel) :
    (image.draw pixels).packed = image.packed.draw pixels := by
  induction pixels generalizing image with
  | nil => rfl
  | cons p rest ih =>
    have hstep := ih (image.plot p)
    rw [image.packed_plot low] at hstep
    exact hstep

/-- Every edit comes to the same in both forms. -/
theorem packed_edit (image : Raster w h) (edit : ImageEdit) :
    (image.edit edit).packed = image.packed.edit edit := by
  cases edit with
  | set x y on => exact image.packed_set low x y on
  | draw pixels => exact image.packed_draw low pixels

/-- Whatever is done to an image, its bytes are those of the image to which the same is done. -/
theorem packed_editAll (image : Raster w h) (edits : List ImageEdit) :
    (image.editAll edits).packed = image.packed.editAll edits := by
  induction edits generalizing image with
  | nil => rfl
  | cons edit rest ih =>
    have hstep := ih (image.edit edit)
    rw [image.packed_edit low] at hstep
    exact hstep

end Low

/-! ## Lit pixels -/

/-- The lit pixels can be counted column by column. -/
theorem lit_eq_sum (image : Raster w h) :
    image.lit = ∑ x ∈ Finset.range w, Nat.count (fun y => image.get x y = true) h := by
  have hcolumns : image.columns.toList.map (fun column => (List.range h).countP column.getLsbD) =
      List.ofFn fun x : Fin w => Nat.count (fun y => image.get x y = true) h := by
    refine List.ext_getElem (by simp) fun x hx _ => ?_
    have hxw : x < w := by simpa using hx
    simp [Nat.count, get]
  rw [lit, ← List.sum_eq_foldr, hcolumns, List.sum_ofFn, Finset.sum_range]

/-- As many places are lit as are counted. -/
theorem encard_lit (image : Raster w h) :
    {place : Nat × Nat | image.get place.1 place.2 = true}.encard = image.lit := by
  have hplaces : {place : Nat × Nat | image.get place.1 place.2 = true} =
      ((Finset.range w ×ˢ Finset.range h).filter fun place =>
        image.get place.1 place.2 = true : Finset (Nat × Nat)) := by
    ext ⟨x, y⟩
    rw [Set.mem_ofPred_eq, Finset.mem_coe, Finset.mem_filter, Finset.mem_product,
      Finset.mem_range, Finset.mem_range]
    refine ⟨fun hlit => ⟨?_, hlit⟩, And.right⟩
    rw [get_eq_and, Bool.and_eq_true, decide_eq_true_iff] at hlit
    exact hlit.1
  rw [hplaces, Set.encard_coe_eq_coe_finsetCard, lit_eq_sum, Finset.card_filter,
    Finset.sum_product]
  simp only [Nat.count_eq_card_filter_range, Finset.card_filter]

/-- No more pixels are lit than there are. -/
theorem lit_le (image : Raster w h) : image.lit ≤ w * h := by
  rw [lit_eq_sum]
  have hcolumns := Finset.sum_le_sum (s := Finset.range w) fun x _ =>
    Nat.count_le (p := fun y => image.get x y = true) (n := h)
  rwa [Finset.sum_const, Finset.card_range, smul_eq_mul] at hcolumns

end Raster

/-- A sum in 32-bit words is the sum of the numbers, as far as it fits. -/
theorem PackedImage.toNat_addUp (counts : List Nat) (total : UInt32) :
    (counts.foldl (fun total count => total + UInt32.ofNat count) total).toNat =
      (total.toNat + counts.sum) % UInt32.size := by
  induction counts generalizing total with
  | nil =>
    rw [List.foldl_nil, List.sum_nil, Nat.add_zero, Nat.mod_eq_of_lt total.toNat_lt_size]
  | cons count rest ih =>
    have hword : (total + UInt32.ofNat count).toNat = (total.toNat + count) % UInt32.size := by
      rw [UInt32.toNat_add, UInt32.toNat_ofNat']
      exact Nat.add_mod_mod ..
    rw [List.foldl_cons, ih, hword, List.sum_cons, Nat.mod_add_mod, Nat.add_assoc]

/-- The bytes of an image have the same number of ones as the image has lit pixels, as far as a word
can hold it. -/
theorem Raster.toNat_lit_packed {w h : Nat} (low : h ≤ maxImageHeight) (image : Raster w h) :
    image.packed.lit.toNat = image.lit % UInt32.size := by
  have hcounts : image.packed.columns.toList.map PackedImage.countOnes =
      image.columns.toList.map fun column => (List.range h).countP column.getLsbD := by
    rw [packed, Vector.toList_map, List.map_map]
    exact List.map_congr_left fun column _ => PackedImage.countOnes_packColumn low column
  have hlit : image.packed.lit = (image.packed.columns.toList.map PackedImage.countOnes).foldl
      (fun total count => total + UInt32.ofNat count) 0 := by
    rw [List.foldl_map]
    rfl
  rw [hlit, PackedImage.toNat_addUp, hcounts, Raster.lit, ← List.sum_eq_foldr, UInt32.toNat_zero,
    Nat.zero_add]

/-! ## All changes together -/

/-- Whatever is set and drawn on a new image, also beyond its edges: inside the image each pixel is
what was written last to its place, or dark if nothing was, and outside everything is dark. The
number of lit pixels is the number of places that are lit, and two images are equal exactly if all
their pixels are. The same holds of the image in bytes, where images may differ in their heights,
pixels are counted by whole bytes in a 32-bit word, and whole bytes are compared. -/
theorem image_exact (w wanted : Nat) (edits : List ImageEdit) :
    let image := (Raster.new w wanted).editAll edits
    let stored := (PackedImage.new w wanted).editAll edits
    let written := Raster.lastWritten? (edits.flatMap ImageEdit.writes)
    (∀ x y : Nat,
      image.get x y =
          (if x < w ∧ y < min wanted maxImageHeight then (written x y).getD false else false) ∧
        stored.get x y = image.get x y) ∧
      {place : Nat × Nat | image.get place.1 place.2 = true}.encard = image.lit ∧
      image.lit ≤ w * min wanted maxImageHeight ∧
      stored.lit.toNat = image.lit % UInt32.size ∧
      (∀ edits', image = (Raster.new w wanted).editAll edits' ↔
        ∀ x y, image.get x y = ((Raster.new w wanted).editAll edits').get x y) ∧
      ∀ wanted' edits',
        let stored' := (PackedImage.new w wanted').editAll edits'
        stored = stored' ↔
          stored.height = stored'.height ∧ ∀ x y, stored.get x y = stored'.get x y := by
  have low (wanted : Nat) : min wanted maxImageHeight ≤ maxImageHeight := Nat.min_le_right _ _
  have hstored (wanted : Nat) (edits : List ImageEdit) :
      (PackedImage.new w wanted).editAll edits =
        ((Raster.new w wanted).editAll edits).packed := by
    rw [← Raster.packed_new, Raster.packed_editAll (low wanted)]
  intro image stored written
  refine ⟨fun x y => ⟨?_, ?_⟩, image.encard_lit, image.lit_le, ?_, fun edits' => ?_, ?_⟩
  · simp only [image, Raster.editAll_eq_draw]
    exact Raster.get_draw_dark _ x y
  · simp only [stored, hstored]
    exact Raster.get_packed (low wanted) _ x y
  · simp only [stored, hstored]
    exact Raster.toNat_lit_packed (low wanted) _
  · exact ⟨fun heq x y => by rw [heq], Raster.ext_get⟩
  · intro wanted' edits' stored'
    simp only [stored, stored', hstored]
    exact Raster.packed_eq_iff (low wanted) (low wanted') _ _

end Marquee
