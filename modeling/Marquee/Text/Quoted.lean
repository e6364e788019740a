import Marquee.Text.Class

/-!
# Bytes and text in messages

Bytes are shown in messages as two hexadecimal digits after the mark 0x, digits below ten in front
of the small letters.

A text in a message stands between quotation marks, so that its ends and its invisible characters
can be seen. Quotation marks and backslashes have a backslash in front, four control characters
have short names, and what cannot be shown is written as its number in hexadecimal.
-/

namespace Marquee.Text

/-! ## Hexadecimal bytes -/

/-- The sixteen digits, small letters after the decimal ones. -/
def hexDigit (n : Nat) : Char :=
  if n < 10 then Char.ofNat ('0'.toNat + n) else Char.ofNat ('a'.toNat + (n - 10))

/-- A byte as two hexadecimal digits. -/
def hexByte (b : UInt8) : String :=
  String.ofList [hexDigit (b.toNat / 16), hexDigit (b.toNat % 16)]

/-- A byte as it stands in a message, such as 0x0b. -/
def markedHex (b : UInt8) : String := "0x" ++ hexByte b

/-- A number in hexadecimal, without leading zeros. -/
def hexNat (n : Nat) : String := String.ofList (Nat.toDigits 16 n)

/-! ## Quoted text -/

/-- A character as it stands between the quotation marks. -/
def quotedChar (c : Char) : List Char :=
  if c = '"' then ['\\', '"']
  else if c = '\\' then ['\\', '\\']
  else if c = '\n' then ['\\', 'n']
  else if c = '\r' then ['\\', 'r']
  else if c = '\t' then ['\\', 't']
  else if c = '\x00' then ['\\', '0']
  else if isUnprintable c then ['\\', 'u', '\x7b'] ++ Nat.toDigits 16 c.toNat ++ ['\x7d']
  else [c]

/-- A text between quotation marks. -/
def quoted (text : String) : String :=
  String.ofList ('"' :: text.toList.flatMap quotedChar ++ ['"'])

end Marquee.Text
