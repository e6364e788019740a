import Marquee.Proofs.Picture.Font
import Marquee.Proofs.Picture.Raster
import Marquee.Proofs.Sign.Painter
import Marquee.Proofs.Text.Utf8

/-!
# Scrolled messages are shifted strips

The picture of a message is a part of its strip, that is of the text drawn once without edges: the
column where the part begins is the shift (`ScrolledText.bitmap_toList`). On the way the shift is
made a signed word and negated, and neither can go wrong, as a message that is short enough to be
kept is no wider than 1275 columns (`textWidth_le`). Where the strip has ended, the picture is dark:
nothing of the text comes in again from the right.
-/

namespace Marquee

/-! ## The width and the shift as words -/

/-- The greatest width of a message that is kept. -/
def maxMessageWidth : Nat := 1275

theorem textWidth_le {text : String} (fits : Text.byteCount text ≤ maxMessage) :
    Font.message.textWidth text ≤ maxMessageWidth := by
  have hlength := Text.length_le_byteCount text
  unfold maxMessage at fits
  change text.length * 5 ≤ 1275
  omega

/-- The measured width does not wrap. -/
theorem toNat_messageSpan {text : String} (fits : Text.byteCount text ≤ maxMessage) :
    (messageSpan text).toNat = Font.message.textWidth text := by
  have hwidth := textWidth_le fits
  unfold maxMessageWidth at hwidth
  exact UInt32.toNat_ofNat_of_lt' (Nat.lt_of_le_of_lt hwidth (by decide))

namespace ScrolledText

theorem toNat_shift (message : ScrolledText) :
    message.shift.toNat =
      if panelWidth < message.width.toNat then message.offset.toNat % message.width.toNat
      else 0 := by
  rw [shift]
  split
  · exact UInt32.toNat_mod _ _
  · rfl

/-- The shift is less than the width of a message that is wider than the panel. -/
theorem toNat_shift_le (message : ScrolledText) :
    message.shift.toNat ≤ message.width.toNat := by
  rw [toNat_shift]
  split
  · exact Nat.le_of_lt (Nat.mod_lt _ (by omega))
  · exact Nat.zero_le _

/-- A shift that is no wider than a message stays what it is as a signed word. -/
theorem toInt_shift {shift : UInt32} (small : shift.toNat ≤ maxMessageWidth) :
    shift.toInt32.toInt = shift.toNat := by
  have hhalf : 2 * shift.toBitVec.toNat < 2 ^ 32 := by
    change 2 * shift.toNat < 2 ^ 32
    unfold maxMessageWidth at small
    omega
  exact BitVec.toInt_eq_toNat_of_lt hhalf

/-- The negation of such a shift does not overflow. -/
theorem startColumn_of_small {shift : UInt32} (small : shift.toNat ≤ maxMessageWidth) :
    startColumn shift = -(shift.toNat : Int) := by
  rw [startColumn, Int32.toInt_neg, toInt_shift small]
  unfold maxMessageWidth at small
  exact Int.bmod_eq_of_le (by omega) (by omega)

/-! ## The picture -/

/-- Each column of the picture is the column of the strip that is as much further right as the
picture is shifted. -/
theorem bitmap_toList (text : String) {shift : UInt32} (small : shift.toNat ≤ maxMessageWidth) :
    (bitmap text shift).toList =
      (List.range panelWidth).map fun i : Nat =>
        (Font.message.strip text).column (i + shift.toNat) := by
  have shows := Raster.shows_dark (w := panelWidth) (h := panelHeight)
    |>.draw (Font.message.pixels text (startColumn shift) 0)
  rw [bitmap, Font.draw, shows.toBitmap]
  refine List.map_congr_left fun i _ => columnByte_congr fun row _ => ?_
  rw [Font.draw_pixels, startColumn_of_small small, Int.sub_neg, Int.sub_zero]

end ScrolledText

/-- Behind its measured width a strip is dark. -/
theorem Font.column_strip_of_le {f : Font} {text : String} {x : Int}
    (h : (f.textWidth text : Int) ≤ x) : (f.strip text).column x = 0 := by
  refine columnByte_dark fun row _ => ?_
  rw [← Bool.not_eq_true]
  intro hlit
  have hwithin := (strip_within hlit).2
  omega

/-- The bits of a column of a plane are its first seven rows, the top row in the highest bit. -/
theorem Plane.testBit_column (plane : Plane) (x : Int) {row : Nat} (hrow : row ≤ 7) :
    (plane.column x).toNat.testBit (7 - row) = (decide (row < panelHeight) && plane x row) :=
  testBit_columnByte_row (Nat.le_refl _) _ hrow

/-- Whatever a painter has drawn before, and however far a message that is short enough to be kept
has scrolled, its picture is its strip shifted to the left: by the offset modulo the measured width
if it is wider than the panel, and not at all otherwise. The strip is lit only between the origin
and the measured width, so that what comes after the text is dark. The measured width counts five
columns for each character and is 1275 at most, and the shift is exact as a signed word and
negated. -/
theorem message_shifted (requests : List PaintRequest) (text : String) (offset : UInt32)
    (fits : Text.byteCount text ≤ maxMessage) :
    let message : ScrolledText := ⟨text, messageSpan text, offset⟩
    let bitmap := ((Painter.new.paintAll requests).2.drawMessage message).1
    let strip := Font.message.strip text
    let width := (messageSpan text).toNat
    let shift := if panelWidth < width then offset.toNat % width else 0
    bitmap.toList = (List.range panelWidth).map (fun i : Nat => strip.column (i + shift)) ∧
      (∀ x, ∀ row ≤ 7,
        (strip.column x).toNat.testBit (7 - row) = (decide (row < panelHeight) && strip x row)) ∧
      (∀ i < panelWidth, width ≤ i + shift → bitmap.toList[i]? = some 0) ∧
      (∀ x y, strip x y = true → 0 ≤ x ∧ x < width) ∧
      width = text.length * 5 ∧ width ≤ 1275 ∧
      message.shift.toNat = shift ∧ message.shift.toInt32.toInt = shift ∧
      ScrolledText.startColumn message.shift = -(shift : Int) := by
  intro message bitmap strip width shift
  have hwidth : width = Font.message.textWidth text := toNat_messageSpan fits
  have hbound : width ≤ 1275 := hwidth ▸ textWidth_le fits
  have hshift : message.shift.toNat = shift := message.toNat_shift
  have hsmall : message.shift.toNat ≤ maxMessageWidth :=
    Nat.le_trans message.toNat_shift_le hbound
  have hbitmap : bitmap.toList =
      (List.range panelWidth).map fun i : Nat => strip.column (i + shift) := by
    obtain ⟨hpicture, -⟩ :=
      (Painter.faithful_new.paintAll requests).2.drawMessage message
    have hpicture : bitmap = ScrolledText.bitmap text message.shift := hpicture
    rw [hpicture, ScrolledText.bitmap_toList text hsmall, hshift]
  refine ⟨hbitmap, fun x row hrow => strip.testBit_column x hrow, ?_, ?_, hwidth, hbound, hshift,
    hshift ▸ ScrolledText.toInt_shift hsmall, hshift ▸ ScrolledText.startColumn_of_small hsmall⟩
  · intro i hi hbehind
    have hdark : strip.column (i + shift) = 0 :=
      Font.column_strip_of_le (by rw [← hwidth]; exact_mod_cast hbehind)
    rw [hbitmap, List.getElem?_map, List.getElem?_range hi, Option.map_some, hdark]
  · intro x y hlit
    rw [hwidth]
    exact Font.strip_within hlit

/-- The second pass of a text in two lines. Its width counts both lines and the line end between
them. -/
theorem message_shifted_second_pass :
    let text := "one line of a text\nand the next one"
    let bitmap := (Painter.new.drawMessage ⟨text, messageSpan text, 180⟩).1
    Text.byteCount text ≤ maxMessage ∧ (messageSpan text).toNat = 175 ∧
      bitmap.toList =
        (List.range panelWidth).map fun i : Nat => (Font.message.strip text).column (i + 5) := by
  intro text bitmap
  have fits : Text.byteCount text ≤ maxMessage := by decide
  have hspan : (messageSpan text).toNat = 175 := by decide
  obtain ⟨hbitmap, -⟩ := message_shifted [] text 180 fits
  rw [hspan] at hbitmap
  exact ⟨fits, hspan, hbitmap⟩

end Marquee
