import Marquee.Number.Decimal

/-!
# The time of day

Two clocks run side by side. The local one shows hours, minutes and seconds at an offset from
universal time. The other one divides the day into a thousand beats and is the same all over the
world: its day starts at midnight one hour ahead of universal time.
-/

namespace Marquee

/-- A reading of the clock. -/
structure ClockReading where
  /-- milliseconds since the start of 1970, universal time; negative before -/
  unixMs : Int
  /-- seconds that the local clock is ahead of universal time -/
  utcOffsetS : Int
deriving DecidableEq

/-- Milliseconds since the start of 1970, and zero for all times before. -/
def ClockReading.sinceEpochMs (t : ClockReading) : Nat := t.unixMs.toNat

/-! ## Beats -/

/-- Milliseconds since the start of the day that the beats divide. -/
def beatsDayMs (unixMs : Int) : Nat := ((unixMs + 3600000) % 86400000).toNat

/-- The beats since the start of that day; one beat is 86.4 seconds. -/
def beats (unixMs : Int) : Double :=
  Binary.ofNat .double (beatsDayMs unixMs) / Binary.ofNat .double 86400

/-! ## Hours, minutes and seconds -/

/-- A time of day. -/
structure TimeOfDay where
  /-- hours, below 24 -/
  hour : Nat
  /-- minutes, below 60 -/
  minute : Nat
  /-- seconds, below 60 -/
  second : Nat
deriving DecidableEq

/-- The second of the local day. -/
def ClockReading.secondOfDay (t : ClockReading) : Nat :=
  ((t.unixMs / 1000 + t.utcOffsetS) % 86400).toNat

namespace TimeOfDay

/-- The time of day at a second of the day. -/
def ofSecond (second : Nat) : TimeOfDay := ⟨second / 3600, second / 60 % 60, second % 60⟩

/-- The time as hours, minutes and seconds in two digits each. -/
def text (t : TimeOfDay) : String :=
  String.ofList <| Decimal.twoDigits t.hour ++ ':' :: Decimal.twoDigits t.minute ++
    ':' :: Decimal.twoDigits t.second

end TimeOfDay

/-- The time of day at a reading of the clock. -/
def ClockReading.timeOfDay (t : ClockReading) : TimeOfDay := .ofSecond t.secondOfDay

/-! ## The clock face -/

/-- The two texts of the clock face. -/
structure ClockFace where
  /-- the time of day -/
  time : String
  /-- the beats -/
  beats : String
deriving DecidableEq

namespace ClockFace

/-- Beats have two places and are filled up with zeros to six characters. -/
def beatsFormat : Decimal.FixedFormat := ⟨2, 6⟩

/-- The text of a number of beats. -/
def beatsText : Double → String
  | .finite _ units => beatsFormat.write (beatsFormat.count .double units)
  | _ => ""

end ClockFace

/-- The clock face at a reading of the clock. -/
def ClockReading.face (t : ClockReading) : ClockFace :=
  ⟨t.timeOfDay.text, ClockFace.beatsText (Marquee.beats t.unixMs)⟩

end Marquee
