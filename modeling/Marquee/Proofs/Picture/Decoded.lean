import Marquee.Proofs.Picture.Packed

/-!
# Bitmaps as images and back

A bitmap carries every pixel of the panel image that it was made from, so that reading it back gives
that image (`Raster.ofBitmap_toBitmap`). Any bytes are read as the bitmap of some image: the bytes
past the width of a panel and the lowest bit of each byte are lost, and missing bytes are dark
(`Raster.toList_toBitmap_ofBitmap`). Bytes that are read pixel by pixel into an image in bytes give
the same image (`PackedImage.ofBitmap_eq`).
-/

namespace Marquee

/-! ## The bits of a byte -/

/-- The rows of a byte are all its bits but the lowest one. -/
theorem columnByte_testBit (byte : UInt8) :
    columnByte panelHeight (fun row => byte.toNat.testBit (7 - row)) = byte &&& 0xfe := by
  refine UInt8.toNat_inj.mp (Nat.eq_of_testBit_eq fun bit => ?_)
  rcases Nat.lt_or_ge bit 8 with hbit | hbit
  · have hmask : ∀ row < 8,
        (0xfe : UInt8).toNat.testBit (7 - row) = decide (row < panelHeight) := by decide
    obtain ⟨row, hrow, rfl⟩ : ∃ row ≤ 7, bit = 7 - row := ⟨7 - bit, by omega, by omega⟩
    rw [testBit_columnByte_row (Nat.le_refl _) _ hrow, UInt8.toNat_and, Nat.testBit_and,
      hmask row (by omega), Bool.and_comm]
  · have hpast (b : UInt8) : b.toNat.testBit bit = false :=
      Nat.testBit_lt_two_pow (Nat.lt_of_lt_of_le b.toNat_lt (Nat.pow_le_pow_right (by decide) hbit))
    rw [hpast, hpast]

namespace Raster

/-! ## Reading a bitmap -/

theorem getLsbD_column (h : Nat) (rows : Nat → Bool) (y : Nat) :
    (column h rows).getLsbD y = (decide (y < h) && rows y) := by
  have hfirst (n : Nat) (hn : n ≤ h) :
      ((List.range n).foldl (fun c r => if rows r then c ||| BitVec.twoPow h r else c)
        (0 : BitVec h)).getLsbD y = (decide (y < n) && rows y) := by
    induction n with
    | zero => simp
    | succ n ih =>
      rw [List.range_succ, List.foldl_append, List.foldl_cons, List.foldl_nil]
      have hrest := ih (by omega)
      by_cases heq : y = n
      · subst heq
        cases hrow : rows y with
        | true => rw [if_pos rfl, getLsbD_lit _ hn]; simp
        | false => rw [if_neg Bool.false_ne_true, hrest, hrow, Bool.and_false, Bool.and_false]
      · have hlt : decide (y < n + 1) = decide (y < n) := decide_eq_decide.mpr (by omega)
        rw [hlt, ← hrest]
        cases rows n with
        | true => rw [if_pos rfl, getLsbD_lit _ hn, decide_eq_false heq, Bool.false_or]
        | false => rw [if_neg Bool.false_ne_true]
  exact hfirst h (Nat.le_refl h)

theorem get_ofBitmap (bytes : List UInt8) (x y : Nat) :
    (ofBitmap bytes).get x y =
      (decide (x < panelWidth ∧ y < panelHeight) &&
        (bytes[x]?.getD 0).toNat.testBit (7 - y)) := by
  rcases Nat.lt_or_ge x panelWidth with hx | hx
  · rw [get, ofBitmap, Vector.getElem?_eq_getElem hx, Vector.getElem_ofFn]
    dsimp only
    rw [getLsbD_column]
    simp [hx]
  · rw [get_eq_and, decide_eq_false (by omega), Bool.false_and, Bool.false_and]

/-- Columns that were written from rows are read as these rows. -/
theorem get_ofBitmap_columns (lit : Nat → Nat → Bool) (x y : Nat) :
    (ofBitmap ((List.range panelWidth).map fun x => columnByte panelHeight (lit x))).get x y =
      (decide (x < panelWidth ∧ y < panelHeight) && lit x y) := by
  rw [get_ofBitmap]
  by_cases inside : x < panelWidth ∧ y < panelHeight
  · have hrow : y ≤ 7 := Nat.le_of_lt (Nat.lt_of_lt_of_le inside.2 (by decide))
    rw [List.getElem?_map, List.getElem?_range inside.1, Option.map_some, Option.getD_some,
      testBit_columnByte_row (Nat.le_refl _) _ hrow, decide_eq_true inside.2, Bool.true_and]
  · rw [decide_eq_false inside, Bool.false_and, Bool.false_and]

/-- The bitmap of an image is read as this image. -/
theorem ofBitmap_toBitmap (image : PanelRaster) : ofBitmap image.toBitmap.toList = image := by
  refine ext_get fun x y => ?_
  rw [image.toList_toBitmap, get_ofBitmap_columns]
  exact (image.get_eq_and x y).symm

/-- Bytes read as an image are written as they are, cut or filled up to the width of a panel and
without the lowest bits. -/
theorem toList_toBitmap_ofBitmap (bytes : List UInt8) :
    (ofBitmap bytes).toBitmap.toList =
      (bytes.take panelWidth).map (· &&& 0xfe) ++
        List.replicate (panelWidth - bytes.length) 0 := by
  have hbytes : (ofBitmap bytes).toBitmap.toList =
      (List.range panelWidth).map fun x => bytes[x]?.getD 0 &&& 0xfe := by
    rw [toList_toBitmap]
    refine List.map_congr_left fun x hx => ?_
    rw [← columnByte_testBit]
    refine columnByte_congr fun row hrow => ?_
    rw [get_ofBitmap, decide_eq_true ⟨List.mem_range.mp hx, hrow⟩, Bool.true_and]
  rw [hbytes]
  refine List.ext_getElem (by simp; omega) fun x hx _ => ?_
  rw [List.length_map, List.length_range] at hx
  rcases Nat.lt_or_ge x bytes.length with hin | hout
  · simp [List.getElem_append_left, hx, hin]
  · rw [List.getElem_append_right (by simp; omega)]
    simp [List.getElem?_eq_none hout]

end Raster

/-! ## Images in bytes -/

theorem Raster.packed_dark_panel :
    (dark panelWidth panelHeight).packed = PackedImage.new panelWidth panelHeight :=
  packed_dark _ _

/-- The bitmap of an image of any height has the rows of a panel. -/
theorem PackedImage.toList_toBitmap (image : PackedImage panelWidth) :
    image.toBitmap.toList =
      (List.range panelWidth).map fun x => columnByte panelHeight (image.get x) := by
  rw [toBitmap, toList_windowAt_wide image rfl]
  refine List.map_congr_left fun x _ => columnByte_min fun row hrow => ?_
  exact if_neg (Nat.not_lt_of_le hrow)

/-- The bytes of an image give the same bitmap. -/
theorem Raster.toBitmap_packed (image : PanelRaster) :
    image.packed.toBitmap = image.toBitmap := by
  refine Bytes.ext ?_
  rw [image.toList_toBitmap, image.packed.toList_toBitmap]
  refine List.map_congr_left fun x _ => columnByte_congr fun row _ => ?_
  exact get_packed (by decide) image x row

namespace PackedImage

variable {w : Nat}

theorem plot_natCast (image : PackedImage w) (x y : Nat) (on : Bool) :
    image.plot ⟨x, y, on⟩ = image.set x y on := by
  have hinside : ¬((x : Int) < 0 ∨ (y : Int) < 0) := by omega
  exact if_neg hinside

/-- The pixels that are set while a column of a bitmap is read. -/
def columnPixels (x : Nat) (byte : UInt8) : List Raster.Pixel :=
  (List.range panelHeight).map fun row : Nat => ⟨x, row, byte &&& rowMask (7 - row) != 0⟩

/-- The pixels that are set while a bitmap is read. -/
def bitmapPixels (bytes : List UInt8) : List Raster.Pixel :=
  (bytes.take panelWidth).zipIdx.flatMap fun (byte, x) => columnPixels x byte

theorem setColumn_eq_draw (image : PackedImage w) (x : Nat) (byte : UInt8) :
    image.setColumn x byte = image.draw (columnPixels x byte) := by
  simp only [setColumn, draw, columnPixels, List.foldl_map, plot_natCast]

theorem ofBitmap_eq_draw (bytes : List UInt8) :
    ofBitmap bytes = (new panelWidth panelHeight).draw (bitmapPixels bytes) := by
  simp only [ofBitmap, setColumn_eq_draw, draw, bitmapPixels, List.foldl_flatMap]

theorem mem_bitmapPixels {bytes : List UInt8} {p : Raster.Pixel} (h : p ∈ bitmapPixels bytes) :
    ∃ x row : Nat, p.x = x ∧ p.y = row ∧ x < panelWidth ∧ row < panelHeight ∧
      x < bytes.length ∧ p.on = (bytes[x]?.getD 0).toNat.testBit (7 - row) := by
  obtain ⟨⟨byte, x⟩, hplace, hp⟩ := List.mem_flatMap.mp h
  obtain ⟨row, hrow, rfl⟩ := List.mem_map.mp hp
  rw [List.mem_range] at hrow
  rw [List.mem_zipIdx_iff_getElem?, List.getElem?_take] at hplace
  dsimp only at hplace
  have hx : x < panelWidth := by
    by_contra hpast
    rw [if_neg hpast] at hplace
    cases hplace
  rw [if_pos hx] at hplace
  refine ⟨x, row, rfl, rfl, hx, hrow, (List.getElem?_eq_some_iff.mp hplace).1, ?_⟩
  rw [hplace, Option.getD_some, and_rowMask_ne_zero byte (by omega)]
  rfl

theorem exists_mem_bitmapPixels {bytes : List UInt8} {x row : Nat} (hx : x < panelWidth)
    (hrow : row < panelHeight) (hin : x < bytes.length) :
    ∃ p ∈ bitmapPixels bytes, p.x = (x : Int) ∧ p.y = (row : Int) := by
  refine ⟨_, List.mem_flatMap.mpr ⟨(bytes[x], x), ?_,
    List.mem_map.mpr ⟨row, List.mem_range.mpr hrow, rfl⟩⟩, rfl, rfl⟩
  rw [List.mem_zipIdx_iff_getElem?, List.getElem?_take, if_pos hx]
  exact List.getElem?_eq_getElem hin

/-- Read pixel by pixel, a bitmap gives the image that it shows. -/
theorem ofBitmap_eq (bytes : List UInt8) : ofBitmap bytes = (Raster.ofBitmap bytes).packed := by
  have hlow : panelHeight ≤ maxImageHeight := by decide
  let value : Plane := fun x y => (bytes[x.toNat]?.getD 0).toNat.testBit (7 - y.toNat)
  have hvalue : ∀ p ∈ bitmapPixels bytes, p.on = value p.x p.y := by
    intro p hp
    obtain ⟨x, row, hpx, hpy, -, -, -, hon⟩ := mem_bitmapPixels hp
    rw [hon, hpx, hpy]
    rfl
  rw [ofBitmap_eq_draw, ← Raster.packed_dark_panel, ← Raster.packed_draw hlow]
  refine congrArg Raster.packed (Raster.ext_get fun x y => ?_)
  rw [Raster.shows_dark.draw, Raster.get_ofBitmap]
  by_cases inside : x < panelWidth ∧ y < panelHeight
  · obtain ⟨hx, hy⟩ := inside
    rw [decide_eq_true ⟨hx, hy⟩, Bool.true_and, Bool.true_and]
    rcases Nat.lt_or_ge x bytes.length with hin | hout
    · exact Plane.draw_of_mem _ value hvalue (exists_mem_bitmapPixels hx hy hin)
    · have hdark : (bytes[x]?.getD 0).toNat.testBit (7 - y) = false := by
        rw [List.getElem?_eq_none hout]
        exact Nat.zero_testBit _
      rw [hdark, Plane.draw_of_not_mem, Plane.dark]
      intro p hp hplace
      obtain ⟨x', -, hpx, -, -, -, hin, -⟩ := mem_bitmapPixels hp
      omega
  · rw [decide_eq_false inside, Bool.false_and, Bool.false_and]

/-- The bitmap of an image of any height is read as the rows that a panel has. -/
theorem get_ofBitmap_toBitmap (image : PackedImage panelWidth) (x y : Nat) :
    (ofBitmap image.toBitmap.toList).get x y = (decide (y < panelHeight) && image.get x y) := by
  rw [ofBitmap_eq, Raster.get_packed (by decide), image.toList_toBitmap,
    Raster.get_ofBitmap_columns]
  rcases Nat.lt_or_ge x panelWidth with hx | hx
  · rw [decide_eq_decide.mpr (and_iff_right hx)]
  · have hdark : image.get x y = false := by
      rw [get, Vector.getElem?_eq_none hx]
      exact ite_self _
    rw [hdark, Bool.and_false, Bool.and_false]

end PackedImage

/-- Whatever is set and drawn on a panel image, its bitmap is read as this image again. Any bytes,
read as an image and written as its bitmap, are the same bytes without their lowest bits, cut to the
width of a panel and filled up with zeros. Both hold of images in bytes as well, which are compared
byte by byte, and give the same bitmaps. The bitmap of an image as wide as a panel but of any height
is read as those of its rows that a panel has. -/
theorem bitmap_inverse (edits : List ImageEdit) (bytes : List UInt8) :
    let image := (Raster.dark panelWidth panelHeight).editAll edits
    let stored := (PackedImage.new panelWidth panelHeight).editAll edits
    Raster.ofBitmap image.toBitmap.toList = image ∧
      stored.toBitmap = image.toBitmap ∧
      PackedImage.ofBitmap stored.toBitmap.toList = stored ∧
      (Raster.ofBitmap bytes).toBitmap.toList =
        (bytes.take panelWidth).map (· &&& 0xfe) ++
          List.replicate (panelWidth - bytes.length) 0 ∧
      (PackedImage.ofBitmap bytes).toBitmap = (Raster.ofBitmap bytes).toBitmap ∧
      ∀ wanted x y,
        let other := (PackedImage.new panelWidth wanted).editAll edits
        (PackedImage.ofBitmap other.toBitmap.toList).get x y =
          (decide (y < panelHeight) && other.get x y) := by
  have hlow : panelHeight ≤ maxImageHeight := by decide
  intro image stored
  have hstored : stored = image.packed := by
    simp only [stored, image]
    rw [← Raster.packed_dark_panel, Raster.packed_editAll hlow]
  refine ⟨image.ofBitmap_toBitmap, ?_, ?_, Raster.toList_toBitmap_ofBitmap bytes, ?_, ?_⟩
  · rw [hstored, image.toBitmap_packed]
  · rw [hstored, image.toBitmap_packed, PackedImage.ofBitmap_eq, image.ofBitmap_toBitmap]
  · rw [PackedImage.ofBitmap_eq, Raster.toBitmap_packed]
  · intro wanted x y other
    exact other.get_ofBitmap_toBitmap x y

end Marquee
