import Marquee.Clock.Words
import Marquee.Proofs.Picture.Font
import Marquee.Proofs.Picture.Raster
import Marquee.Proofs.Sign.Painter
import Marquee.Proofs.Text.Utf8

/-!
# The fields of the clock face

A text drawn over an image lights its own pixels and leaves all others as they were, so the clock
face is the union of its three texts drawn one by one (`ClockFace.bitmap_eq_union`). Each text has
columns of its own, which are enough for as many characters as a text of the face may have bytes
(`ClockFace.Field.Fits.inside`); the top row stays free because all texts start below it.
-/

namespace Marquee

/-! ## Unions of pictures -/

/-- The bitmap in which all pixels are lit that are lit in one of two. -/
def Bitmap.union (a b : Bitmap) : Bitmap :=
  ⟨List.zipWith (· ||| ·) a.toList b.toList, by
    rw [List.length_zipWith, a.length_toList, b.length_toList, Nat.min_self]⟩

theorem Bitmap.toList_union (a b : Bitmap) :
    (a.union b).toList = List.zipWith (· ||| ·) a.toList b.toList := rfl

/-- What is lit in one of two columns is lit in the byte of both. -/
theorem columnByte_or (height : Nat) (lit lit' : Nat → Bool) :
    columnByte height (fun row => lit row || lit' row) =
      columnByte height lit ||| columnByte height lit' := by
  refine UInt8.toNat_inj.mp (Nat.eq_of_testBit_eq fun bit => ?_)
  rw [Bool.eq_iff_iff, UInt8.toNat_or, Nat.testBit_or, Bool.or_eq_true, testBit_columnByte,
    testBit_columnByte, testBit_columnByte]
  simp only [Bool.or_eq_true, and_or_left, exists_or]

/-- The bitmap of what is lit in one of two images is the union of theirs. -/
theorem Raster.toBitmap_or {image a b : PanelRaster}
    (h : ∀ x y, image.get x y = (a.get x y || b.get x y)) :
    image.toBitmap = a.toBitmap.union b.toBitmap := by
  have hcolumns : image.get = fun x y => a.get x y || b.get x y := funext fun x => funext (h x)
  refine Bytes.ext ?_
  rw [Bitmap.toList_union, toList_toBitmap, toList_toBitmap, toList_toBitmap, hcolumns,
    List.zipWith_map, List.zipWith_self]
  exact List.map_congr_left fun x _ => columnByte_or _ _ _

namespace Font

variable {f : Font}

/-! ## Texts drawn over images -/

/-- Every pixel of a line is lit and none lies above the line. -/
theorem linePixels_lit {x y : Int} {line : List Char} {p : Raster.Pixel}
    (h : p ∈ f.linePixels x y line) : p.on = true ∧ y ≤ p.y := by
  induction line generalizing x with
  | nil => cases h
  | cons c rest ih =>
    rcases List.mem_append.mp h with h | h
    · obtain ⟨place, -, rfl⟩ := List.mem_map.mp h
      exact ⟨rfl, by dsimp only; omega⟩
    · exact ih h

/-- Every pixel of some lines is lit and none lies above the first. -/
theorem linesPixels_lit {x y : Int} {lines : List (List Char)} {p : Raster.Pixel}
    (h : p ∈ f.linesPixels x y lines) : p.on = true ∧ y ≤ p.y := by
  induction lines generalizing y with
  | nil => cases h
  | cons line rest ih =>
    rcases List.mem_append.mp h with h | h
    · exact linePixels_lit h
    · have hrest := ih h
      exact ⟨hrest.1, by omega⟩

/-- A text only lights pixels, and none above where it starts. -/
theorem pixels_lit {text : String} {x y : Int} {p : Raster.Pixel} (h : p ∈ f.pixels text x y) :
    p.on = true ∧ y ≤ p.y := linesPixels_lit h

variable {w h : Nat}

/-- A pixel is lit after drawing if it was before or the text has it. -/
theorem get_draw_iff (text : String) (x y : Int) (image : Raster w h) (column row : Nat) :
    (f.draw text x y image).get column row = true ↔
      image.get column row = true ∨
        (column < w ∧ row < h) ∧ ∃ p ∈ f.pixels text x y, p.x = column ∧ p.y = row := by
  let plane : Plane := fun x y => image.get x.toNat y.toNat
  have hshows : image.Shows plane := image.get_eq_and
  rw [draw, hshows.draw, Bool.and_eq_true, decide_eq_true_iff, image.get_eq_and, Bool.and_eq_true,
    decide_eq_true_iff, ← and_or_left]
  refine and_congr_right fun _ => ?_
  by_cases hmem : ∃ p ∈ f.pixels text x y, p.x = column ∧ p.y = row
  · have hon : ∀ p ∈ f.pixels text x y, p.on = true := fun p hp => (pixels_lit hp).1
    rw [Plane.draw_of_mem plane (fun _ _ => true) hon hmem]
    exact iff_of_true rfl (.inr hmem)
  · rw [Plane.draw_of_not_mem plane fun p hp hplace => hmem ⟨p, hp, hplace⟩]
    exact ⟨.inl, fun h => h.resolve_right hmem⟩

/-- Drawing over an image is the union with what is drawn. -/
theorem toBitmap_draw (text : String) (x y : Int) (image : PanelRaster) :
    (f.draw text x y image).toBitmap =
      image.toBitmap.union (f.draw text x y (.dark panelWidth panelHeight)).toBitmap := by
  refine Raster.toBitmap_or fun column row => ?_
  rw [Bool.eq_iff_iff, Bool.or_eq_true, get_draw_iff, get_draw_iff, Raster.get_dark]
  simp only [Bool.false_eq_true, false_or]

end Font

/-! ## Fields -/

namespace ClockFace

/-- A text of the face and the columns that are kept for it. -/
structure Field where
  /-- the text -/
  text : String
  /-- the column where it starts -/
  first : Nat
  /-- the first column after it -/
  past : Nat

namespace Field

/-- The pixels that the text lights. -/
def pixels (field : Field) : List Raster.Pixel := Font.clock.pixels field.text field.first topRow

/-- The picture of the text alone. -/
def bitmap (field : Field) : Bitmap :=
  (Font.clock.draw field.text field.first topRow (.dark panelWidth panelHeight)).toBitmap

/-- The columns of the field are enough for its text, and the panel has them. -/
structure Fits (field : Field) : Prop where
  /-- the text ends before the field does -/
  enough : field.first + Font.clock.textWidth field.text ≤ field.past
  /-- the field ends before the panel does -/
  onPanel : field.past ≤ panelWidth

/-- No pixel of a text that fits is beside the columns of its field. -/
theorem Fits.inside {field : Field} (fits : field.Fits) {p : Raster.Pixel}
    (h : p ∈ field.pixels) : field.first ≤ p.x ∧ p.x < field.past := by
  have hwithin := Font.pixels_within h
  have henough := fits.enough
  omega

/-- No field reaches into the top row. -/
theorem below {field : Field} {p : Raster.Pixel} (h : p ∈ field.pixels) : 1 ≤ p.y :=
  (Font.pixels_lit h).2

end Field

/-- The time of day. -/
def timeField (face : ClockFace) : Field := ⟨face.time, 15, 47⟩

/-- The beats. -/
def beatsField (face : ClockFace) : Field := ⟨face.beats, 61, 93⟩

/-- The label. -/
def labelField : Field := ⟨label, 94, 118⟩

/-- The fields of a face from left to right. -/
def fields (face : ClockFace) : List Field := [face.timeField, face.beatsField, labelField]

/-- A text with no more bytes than the face has room for is at most eight characters wide. -/
theorem textWidth_le {text : String} (fits : Text.byteCount text ≤ capacity) :
    Font.clock.textWidth text ≤ 32 := by
  have hlength := Text.length_le_byteCount text
  unfold capacity at fits
  change text.length * 4 ≤ 32
  omega

/-- The fields of a face fit if its texts do. -/
theorem fits_of_mem {face : ClockFace} (htime : Text.byteCount face.time ≤ capacity)
    (hbeats : Text.byteCount face.beats ≤ capacity) {field : Field} (h : field ∈ face.fields) :
    field.Fits := by
  have htimeWidth := textWidth_le htime
  have hbeatsWidth := textWidth_le hbeats
  simp only [fields, List.mem_cons, List.not_mem_nil, or_false] at h
  rcases h with rfl | rfl | rfl
  · exact ⟨Nat.add_le_add_left htimeWidth 15, (by decide : 47 ≤ panelWidth)⟩
  · exact ⟨Nat.add_le_add_left hbeatsWidth 61, (by decide : 93 ≤ panelWidth)⟩
  · exact ⟨by decide, by decide⟩

/-- The face as an image. -/
def image (face : ClockFace) : PanelRaster :=
  Font.clock.draw label labelColumn topRow <|
    Font.clock.draw face.beats beatsColumn topRow <|
      Font.clock.draw face.time timeColumn topRow (.dark panelWidth panelHeight)

/-- The face shows the pixels of its texts and no others. -/
theorem get_image_iff (face : ClockFace) (x y : Nat) :
    face.image.get x y = true ↔ (x < panelWidth ∧ y < panelHeight) ∧
      ∃ field ∈ face.fields, ∃ p ∈ field.pixels, p.x = x ∧ p.y = y := by
  rw [image, Font.get_draw_iff, Font.get_draw_iff, Font.get_draw_iff, Raster.get_dark]
  simp only [fields, List.mem_cons, List.not_mem_nil, or_false, exists_eq_or_imp, exists_eq_left,
    Bool.false_eq_true, false_or, ← and_or_left, or_assoc]
  exact Iff.rfl

/-- The face is the union of its three fields. -/
theorem bitmap_eq_union (face : ClockFace) :
    face.bitmap = (face.timeField.bitmap.union face.beatsField.bitmap).union labelField.bitmap := by
  rw [bitmap, Font.toBitmap_draw, Font.toBitmap_draw]
  rfl

theorem getElem?_bitmap (face : ClockFace) {x : Nat} {byte : UInt8}
    (h : face.bitmap.toList[x]? = some byte) :
    x < panelWidth ∧ byte = columnByte panelHeight (face.image.get x) := by
  have hbytes : face.bitmap.toList =
      (List.range panelWidth).map fun x => columnByte panelHeight (face.image.get x) :=
    face.image.toList_toBitmap
  rw [hbytes, List.getElem?_map, Option.map_eq_some_iff] at h
  obtain ⟨x', hx, rfl⟩ := h
  obtain ⟨hlt, rfl⟩ := List.getElem?_eq_some_iff.mp hx
  rw [List.length_range] at hlt
  rw [List.getElem_range]
  exact ⟨hlt, rfl⟩

/-- The bits of a column of the face are its rows, the top row in the highest bit. -/
theorem testBit_bitmap (face : ClockFace) {x : Nat} {byte : UInt8}
    (h : face.bitmap.toList[x]? = some byte) {row : Nat} (hrow : row ≤ 7) :
    byte.toNat.testBit (7 - row) = true ↔ row < panelHeight ∧ face.image.get x row = true := by
  obtain ⟨-, rfl⟩ := face.getElem?_bitmap h
  rw [testBit_columnByte_row (Nat.le_refl _) _ hrow, Bool.and_eq_true, decide_eq_true_iff]

/-- A column that is not dark belongs to a field. -/
theorem exists_field_of_ne_zero {face : ClockFace} (hfits : ∀ field ∈ face.fields, field.Fits)
    {x : Nat} {byte : UInt8} (h : face.bitmap.toList[x]? = some byte) (hne : byte ≠ 0) :
    ∃ field ∈ face.fields, field.first ≤ x ∧ x < field.past := by
  obtain ⟨-, rfl⟩ := face.getElem?_bitmap h
  by_cases hlit : ∃ row, face.image.get x row = true
  · obtain ⟨row, hrow⟩ := hlit
    obtain ⟨-, field, hfield, p, hp, hx, -⟩ := (face.get_image_iff x row).mp hrow
    have hinside := (hfits field hfield).inside hp
    exact ⟨field, hfield, by omega, by omega⟩
  · exact absurd (columnByte_dark fun row _ => Bool.eq_false_iff.mpr fun h => hlit ⟨row, h⟩) hne

end ClockFace

/-- Whatever a painter has drawn before, a face whose texts have eight bytes at most is the union of
its three texts drawn one by one. Each text lights pixels in its own columns only, so that nothing
is lost at the right edge and every pixel in a row of the panel shows; the columns in between are
dark, and so are the top row and the lowest bit of every byte. -/
theorem face_in_fields (requests : List PaintRequest) (face : ClockFace)
    (htime : Text.byteCount face.time ≤ ClockFace.capacity)
    (hbeats : Text.byteCount face.beats ≤ ClockFace.capacity) :
    let bitmap := ((Painter.new.paintAll requests).2.drawClock face).1
    bitmap = (face.timeField.bitmap.union face.beatsField.bitmap).union
        ClockFace.labelField.bitmap ∧
      (∀ field ∈ face.fields, ∀ p ∈ field.pixels,
        (field.first ≤ p.x ∧ p.x < field.past ∧ p.x < panelWidth) ∧
          (p.y < panelHeight → ∃ byte, bitmap.toList[p.x.toNat]? = some byte ∧
            byte.toNat.testBit (7 - p.y.toNat) = true)) ∧
      (∀ (x : Nat) (byte : UInt8), bitmap.toList[x]? = some byte → byte ≠ 0 →
        (15 ≤ x ∧ x < 47) ∨ (61 ≤ x ∧ x < 93) ∨ (94 ≤ x ∧ x < 118)) ∧
      ∀ byte ∈ bitmap.toList, byte.toNat.testBit 7 = false ∧ byte.toNat.testBit 0 = false := by
  intro bitmap
  have hbitmap : bitmap = face.bitmap :=
    ((Painter.faithful_new.paintAll requests).2.drawClock face).1
  have hfits : ∀ field ∈ face.fields, field.Fits := fun field =>
    ClockFace.fits_of_mem htime hbeats
  rw [hbitmap]
  refine ⟨face.bitmap_eq_union, ?_, ?_, ?_⟩
  · intro field hfield p hp
    have hinside := (hfits field hfield).inside hp
    have hbelow := ClockFace.Field.below hp
    have honPanel := (hfits field hfield).onPanel
    refine ⟨by omega, fun hrow => ?_⟩
    have hx : p.x.toNat < face.bitmap.toList.length := by
      rw [face.bitmap.length_toList]
      omega
    have hget : face.image.get p.x.toNat p.y.toNat = true :=
      (face.get_image_iff _ _).mpr ⟨by omega, field, hfield, p, hp, by omega, by omega⟩
    have hbyte := List.getElem?_eq_getElem hx
    refine ⟨_, hbyte, (face.testBit_bitmap hbyte ?_).mpr ⟨by omega, hget⟩⟩
    unfold panelHeight at hrow
    omega
  · intro x byte hbyte hne
    have hfield := ClockFace.exists_field_of_ne_zero hfits hbyte hne
    simpa [ClockFace.fields, ClockFace.timeField, ClockFace.beatsField,
      ClockFace.labelField] using hfield
  · intro byte hbyte
    obtain ⟨x, hx⟩ := List.mem_iff_getElem?.mp hbyte
    rw [← Bool.not_eq_true, ← Bool.not_eq_true]
    constructor
    · intro htop
      have hget := ((face.testBit_bitmap hx (Nat.zero_le 7)).mp htop).2
      obtain ⟨-, field, hfield, p, hp, -, hrow⟩ := (face.get_image_iff x 0).mp hget
      have hbelow := ClockFace.Field.below hp
      omega
    · intro hlow
      exact absurd ((face.testBit_bitmap hx (Nat.le_refl 7)).mp hlow).1 (by decide)

/-- A text in two lines with a character of two bytes, beside the longest number of beats. -/
theorem face_in_fields_two_lines :
    let face : ClockFace := ⟨"2\n8888é", "1000.00"⟩
    let bitmap := (Painter.new.drawClock face).1
    Text.byteCount face.time = 8 ∧ Text.byteCount face.beats = 7 ∧
      bitmap = (face.timeField.bitmap.union face.beatsField.bitmap).union
        ClockFace.labelField.bitmap ∧
      bitmap.toList[89]? = some 0 ∧ bitmap.toList[95]? = some 4 := by
  intro face bitmap
  have htime : Text.byteCount face.time = 8 := by decide
  have hbeats : Text.byteCount face.beats = 7 := by decide
  obtain ⟨hunion, -⟩ := face_in_fields [] face (by rw [htime]; decide) (by rw [hbeats]; decide)
  exact ⟨htime, hbeats, hunion, by decide +kernel, by decide +kernel⟩

end Marquee
