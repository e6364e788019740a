/-!
# Text as UTF-8

Text travels as UTF-8 bytes and is limited in bytes, never in characters. Three things are fixed
here: the bytes of a text (`utf8`), the longest beginning of a text that keeps a byte budget and
ends between two characters (`fit`), and the two ways to read bytes back. The strict reader
`ofUtf8?` refuses bytes that no text has; the lenient reader `ofUtf8Lossy` answers for all bytes
and puts one replacement character where a maximal part of an encoding breaks off.
-/

namespace Marquee.Text

/-! ## Writing -/

/-- The UTF-8 bytes of a text. -/
def utf8 (text : String) : List UInt8 :=
  text.toList.flatMap String.utf8EncodeChar

/-- The number of UTF-8 bytes of a text. -/
def byteCount (text : String) : Nat := text.utf8ByteSize

/-- The longest beginning of the characters whose encodings fit the budget together. -/
def fitting : Nat → List Char → List Char
  | _, [] => []
  | budget, c :: rest =>
    if c.utf8Size ≤ budget then c :: fitting (budget - c.utf8Size) rest else []

/-- The longest beginning of a text that has at most `budget` bytes and ends between characters. -/
def fit (budget : Nat) (text : String) : String :=
  String.ofList (fitting budget text.toList)

/-! ## Reading -/

/-- The text with exactly these bytes, if there is one. -/
def ofUtf8? (bytes : List UInt8) : Option String :=
  String.fromUTF8? bytes.toByteArray

/-- The character whose encoding the bytes start with. -/
def firstChar? (bytes : List UInt8) : Option Char :=
  (bytes.take 4).toByteArray.utf8DecodeChar? 0

/-- Bytes that may stand second after a leading byte, least and greatest; `none` where the byte
leads no encoding of several bytes. Overlong forms, surrogates and numbers past the last code
point are ruled out here. -/
def secondByte? (lead : UInt8) : Option (UInt8 × UInt8) :=
  if 0xC2 ≤ lead ∧ lead ≤ 0xDF then some (0x80, 0xBF)
  else if lead = 0xE0 then some (0xA0, 0xBF)
  else if lead = 0xED then some (0x80, 0x9F)
  else if 0xE1 ≤ lead ∧ lead ≤ 0xEF then some (0x80, 0xBF)
  else if lead = 0xF0 then some (0x90, 0xBF)
  else if 0xF1 ≤ lead ∧ lead ≤ 0xF3 then some (0x80, 0xBF)
  else if lead = 0xF4 then some (0x80, 0x8F)
  else none

/-- The number of bytes after the second one that an encoding with this leading byte has. -/
def laterBytes (lead : UInt8) : Nat :=
  if lead < 0xE0 then 0 else if lead < 0xF0 then 1 else 2

/-- Length of the part that is skipped where no character can be read: the leading byte with those
bytes after it that could still have become a character. -/
def brokenLength : List UInt8 → Nat
  | [] => 0
  | [_] => 1
  | lead :: second :: rest =>
    match secondByte? lead with
    | none => 1
    | some (least, greatest) =>
      if least ≤ second ∧ second ≤ greatest then
        2 + ((rest.take (laterBytes lead)).takeWhile fun b => 0x80 ≤ b && b ≤ 0xBF).length
      else 1

theorem brokenLength_pos (b : UInt8) (bytes : List UInt8) : 0 < brokenLength (b :: bytes) := by
  cases bytes with
  | nil => exact Nat.one_pos
  | cons c rest =>
    simp only [brokenLength]
    split
    · exact Nat.one_pos
    · split <;> omega

/-- The characters that the bytes spell, with U+FFFD for each maximal broken part. -/
def scan (bytes : List UInt8) : List Char :=
  match bytes with
  | [] => []
  | b :: rest =>
    match firstChar? (b :: rest) with
    | some c => c :: scan ((b :: rest).drop c.utf8Size)
    | none => '\uFFFD' :: scan ((b :: rest).drop (brokenLength (b :: rest)))
termination_by bytes.length
decreasing_by
  · simp only [List.length_drop, List.length_cons]
    have := c.utf8Size_pos
    omega
  · simp only [List.length_drop, List.length_cons]
    have := brokenLength_pos b rest
    omega

/-- The text that the bytes spell, with U+FFFD for each maximal broken part. -/
def ofUtf8Lossy (bytes : List UInt8) : String := String.ofList (scan bytes)

end Marquee.Text
