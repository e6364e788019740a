import Marquee.Text.Utf8

/-!
# Reading UTF-8

The strict reader accepts the bytes of a text and nothing else, and answers with that text. A text
has no more characters than bytes, and as many if all of them are ASCII.
-/

namespace Marquee.Text

theorem toByteArray_utf8 (text : String) : (utf8 text).toByteArray = text.toByteArray := by
  rw [utf8, ← List.utf8Encode, String.utf8Encode_toList]

/-- A text has as many bytes as its size says. -/
theorem length_utf8 (text : String) : (utf8 text).length = text.utf8ByteSize := by
  rw [← List.size_toByteArray, toByteArray_utf8, String.size_toByteArray]

/-- The text of some bytes is the one that they encode. -/
theorem ofUtf8?_eq_some_iff {bytes : List UInt8} {text : String} :
    ofUtf8? bytes = some text ↔ bytes = utf8 text := by
  rw [ofUtf8?, String.fromUTF8?, ← List.toByteArray_inj, toByteArray_utf8]
  constructor
  · intro h
    split at h
    · obtain rfl := Option.some.inj h
      rfl
    · cases h
  · intro h
    have hvalid : bytes.toByteArray.IsValidUTF8 := h ▸ text.isValidUTF8
    rw [dif_pos hvalid, Option.some_inj, ← String.toByteArray_inj, ← h]
    rfl

/-- Bytes are no text exactly if they encode none. -/
theorem ofUtf8?_eq_none_iff {bytes : List UInt8} :
    ofUtf8? bytes = none ↔ ∀ text, bytes ≠ utf8 text := by
  rw [Option.eq_none_iff_forall_ne_some]
  exact forall_congr' fun text => not_congr ofUtf8?_eq_some_iff

/-- Texts with the same bytes are the same. -/
theorem utf8_inj {text other : String} : utf8 text = utf8 other ↔ text = other := by
  rw [← ofUtf8?_eq_some_iff, ofUtf8?_eq_some_iff.mpr rfl, Option.some_inj]

/-- Every character takes a byte at least. -/
theorem length_le_byteCount (text : String) : text.length ≤ byteCount text := by
  have hchars (chars : List Char) : chars.length ≤ (String.ofList chars).utf8ByteSize := by
    induction chars with
    | nil => exact Nat.zero_le _
    | cons c rest ih =>
      have hc := c.utf8Size_pos
      rw [List.length_cons, String.ofList_cons, String.utf8ByteSize_append,
        String.utf8ByteSize_singleton]
      omega
  have hlength := hchars text.toList
  rw [String.ofList_toList, String.length_toList] at hlength
  exact hlength

/-! ## ASCII -/

/-- All characters are ASCII. -/
def Ascii (chars : List Char) : Prop := ∀ c ∈ chars, c.toNat < 128

theorem Ascii.append {chars more : List Char} (h : Ascii chars) (hmore : Ascii more) :
    Ascii (chars ++ more) := fun c hc => (List.mem_append.mp hc).elim (h c) (hmore c)

/-- An ASCII text has one byte for each character, which is its code. -/
theorem utf8_of_ascii {chars : List Char} (h : Ascii chars) :
    utf8 (String.ofList chars) = chars.map Char.toUInt8 := by
  rw [utf8, String.toList_ofList]
  induction chars with
  | nil => rfl
  | cons c rest ih =>
    have hc : c.utf8Size = 1 := by
      rw [Char.utf8Size_eq_one_iff, UInt32.le_iff_toNat_le]
      exact Nat.le_of_lt_succ (h c List.mem_cons_self)
    rw [List.flatMap_cons, String.utf8EncodeChar_eq_singleton hc, List.map_cons,
      ih fun d hd => h d (List.mem_cons_of_mem c hd)]
    rfl

theorem byteCount_of_ascii {chars : List Char} (h : Ascii chars) :
    byteCount (String.ofList chars) = chars.length := by
  rw [byteCount, ← length_utf8, utf8_of_ascii h, List.length_map]

end Marquee.Text
