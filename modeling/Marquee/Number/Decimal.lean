import Marquee.Number.Binary

/-!
# Decimal text

Numbers written with decimal digits: with zeros in front up to a width, and with a fixed number of
places after the point, rounded to nearest from the exact value with ties to even.

Whole numbers are read as a person types them: an optional sign and decimal digits, nothing else,
within the bounds of the wanted kind. A minus sign is only read where negative numbers are possible.
-/

namespace Marquee

/-! ## Writing -/

namespace Decimal

/-- A number in decimal digits. -/
def text (n : Nat) : String := String.ofList (Nat.toDigits 10 n)

/-- Characters with zeros in front, up to a width. -/
def padded (width : Nat) (digits : List Char) : List Char :=
  List.replicate (width - digits.length) '0' ++ digits

/-- A number in two decimal digits. -/
def twoDigits (n : Nat) : List Char := padded 2 (Nat.toDigits 10 n)

/-- How a number is written with places after the point. -/
structure FixedFormat where
  /-- places after the point -/
  places : Nat
  /-- least number of characters, filled up with zeros in front -/
  width : Nat

/-- A count of the smallest place, written out. -/
def FixedFormat.write (format : FixedFormat) (count : Nat) : String :=
  let scale := Nat.pow 10 format.places
  String.ofList <| padded format.width <|
    Nat.toDigits 10 (count / scale) ++ '.' ::
      padded format.places (Nat.toDigits 10 (count % scale))

/-- The nearest count of the smallest place for a magnitude in units of a format. -/
def FixedFormat.count (format : FixedFormat) (f : BinaryFormat) (units : Nat) : Nat :=
  roundDiv (units * Nat.pow 10 format.places) (Nat.pow 2 f.grain)

end Decimal

/-! ## Reading -/

namespace Numeral

/-- The value of a decimal digit. -/
def digit? (c : Char) : Option Nat :=
  if '0' ≤ c ∧ c ≤ '9' then some (c.toNat - '0'.toNat) else none

/-- The value of decimal digits, at least one. -/
def digits? : List Char → Option Nat
  | [] => none
  | cs => cs.foldlM (fun n c => (digit? c).map (10 * n + ·)) 0

/-- A natural number up to `most`, with an optional plus sign. -/
def nat? (most : Nat) (text : String) : Option Nat :=
  let digits := match text.toList with
    | '+' :: rest => rest
    | cs => cs
  (digits? digits).filter (· ≤ most)

/-- An integer from `least` to `most`, with an optional sign. -/
def int? (least most : Int) (text : String) : Option Int :=
  let value := match text.toList with
    | '+' :: rest => (digits? rest).map Int.ofNat
    | '-' :: rest => (digits? rest).map fun n => -Int.ofNat n
    | cs => (digits? cs).map Int.ofNat
  value.filter fun n => least ≤ n && n ≤ most

/-- A number of eight bits. -/
def byte? (text : String) : Option UInt8 := (nat? 255 text).map UInt8.ofNat

/-- A number of sixty-four bits. -/
def word? : String → Option Nat := nat? (UInt64.size - 1)

/-- A signed number of thirty-two bits. -/
def int32? : String → Option Int := int? Int32.minValue.toInt Int32.maxValue.toInt

end Numeral

end Marquee
