import Marquee.Clock.Time
import Marquee.Text.Utf8

/-!
# The clock in machine words

On the machine the clock is computed in signed words of 64 bits, the parts of a time of day are cut
to bytes, and a text of the face has room for eight bytes. Here all of this is part of the
computation: an operation whose result is no word breaks it off, and a text ends before the first
piece for which there is no room. The machine divides toward zero; the quotient and the remainder
that a clock needs are made from that by a correction.
-/

namespace Marquee

/-! ## Words -/

namespace Word

/-- A number as a word, if it is one. -/
def ofInt? (n : Int) : Option Int64 :=
  if Int64.minValue.toInt ≤ n ∧ n ≤ Int64.maxValue.toInt then some (Int64.ofInt n) else none

/-- The sum. -/
def add? (a b : Int64) : Option Int64 := ofInt? (a.toInt + b.toInt)

/-- The difference. -/
def sub? (a b : Int64) : Option Int64 := ofInt? (a.toInt - b.toInt)

/-- The quotient toward zero. -/
def div? (a b : Int64) : Option Int64 :=
  if b = 0 then none else ofInt? (a.toInt.tdiv b.toInt)

/-- The remainder of the quotient toward zero, which must be a word too. -/
def rem? (a b : Int64) : Option Int64 := do
  let _ ← div? a b
  ofInt? (a.toInt.tmod b.toInt)

/-- The quotient that leaves a remainder from zero on. -/
def divEuclid? (a b : Int64) : Option Int64 := do
  let quotient ← div? a b
  let rest ← rem? a b
  if rest < 0 then
    if 0 < b then sub? quotient 1 else add? quotient 1
  else return quotient

/-- The remainder from zero on. -/
def remEuclid? (a b : Int64) : Option Int64 := do
  let rest ← rem? a b
  if rest < 0 then
    if b < 0 then sub? rest b else add? rest b
  else return rest

/-- The lowest byte of a word. -/
def lowByte (a : Int64) : UInt8 := a.toUInt64.toUInt8

end Word

/-- A reading of the clock in words. -/
structure ClockWords where
  /-- milliseconds since the start of 1970, universal time; negative before -/
  unixMs : Int64
  /-- seconds that the local clock is ahead of universal time -/
  utcOffsetS : Int32
deriving DecidableEq

/-- What the words say. -/
def ClockWords.reading (t : ClockWords) : ClockReading := ⟨t.unixMs.toInt, t.utcOffsetS.toInt⟩

/-! ## The time of day -/

/-- A time of day in words. -/
structure TimeWords where
  /-- hours -/
  hour : Int64
  /-- minutes -/
  minute : Int64
  /-- seconds -/
  second : Int64
deriving DecidableEq

/-- A time of day in bytes. -/
structure TimeBytes where
  /-- hours -/
  hour : UInt8
  /-- minutes -/
  minute : UInt8
  /-- seconds -/
  second : UInt8
deriving DecidableEq

/-- The lowest bytes of the words. -/
def TimeWords.bytes (t : TimeWords) : TimeBytes :=
  ⟨Word.lowByte t.hour, Word.lowByte t.minute, Word.lowByte t.second⟩

/-- What the bytes say. -/
def TimeBytes.time (t : TimeBytes) : TimeOfDay := ⟨t.hour.toNat, t.minute.toNat, t.second.toNat⟩

namespace ClockWords

/-- The second of the local day. -/
def secondOfDay? (t : ClockWords) : Option Int64 := do
  let unixS ← Word.divEuclid? t.unixMs 1000
  let localS ← Word.add? unixS t.utcOffsetS.toInt64
  Word.remEuclid? localS 86400

/-- The time of day. -/
def timeOfDay? (t : ClockWords) : Option TimeWords := do
  let ofDay ← t.secondOfDay?
  let hour ← Word.div? ofDay 3600
  let minutes ← Word.div? ofDay 60
  let minute ← Word.rem? minutes 60
  let second ← Word.rem? ofDay 60
  return ⟨hour, minute, second⟩

/-! ## Beats -/

/-- Milliseconds since the start of the day that the beats divide. -/
def beatsDayMs? (t : ClockWords) : Option Int64 := do
  let ahead ← Word.add? t.unixMs 3600000
  Word.remEuclid? ahead 86400000

/-- The beats since the start of that day. -/
def beats? (t : ClockWords) : Option Double := do
  let dayMs ← t.beatsDayMs?
  return Binary.ofNat .double dayMs.toNatClampNeg / Binary.ofNat .double 86400

end ClockWords

/-! ## The clock face -/

/-- The beginning of some pieces of text in a row that there is room for. The first piece that does
not fit is left out, and so is all that comes after it. -/
def Text.gather (room : Nat) : List String → String
  | [] => ""
  | piece :: rest =>
    if byteCount piece ≤ room then piece ++ gather (room - byteCount piece) rest else ""

/-- The number of bytes that a text of the face has room for. -/
def ClockFace.capacity : Nat := 8

/-- The pieces that the text of a time is put together from. -/
def TimeOfDay.pieces (t : TimeOfDay) : List String :=
  [String.ofList (Decimal.twoDigits t.hour), ":", String.ofList (Decimal.twoDigits t.minute), ":",
    String.ofList (Decimal.twoDigits t.second)]

/-- The clock face. -/
def ClockWords.face? (t : ClockWords) : Option ClockFace := do
  let words ← t.timeOfDay?
  let beats ← t.beats?
  return ⟨Text.gather ClockFace.capacity words.bytes.time.pieces,
    Text.gather ClockFace.capacity [ClockFace.beatsText beats]⟩

end Marquee
