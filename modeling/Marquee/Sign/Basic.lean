import Marquee.Picture.Window
import Marquee.Sign.Order
import Marquee.Sign.Timings

/-!
# The sign

What is to be shown: whether the panels are powered, whether lit and dark are exchanged, the
message with its end and its scrolling, and the bitmap that all panels are known to show. Orders
from the bus and the ticks of the panel side both work on the sign, each in short sections that
do one thing; the operations below are those sections. Times are given by the caller.
-/

namespace Marquee

/-- The longest message that is kept, in bytes. -/
def maxMessage : Nat := 255

/-- The last moment that a time can name, in milliseconds. -/
def lastMoment : Nat := UInt64.size - 1

/-- A message with its end and its scrolling. -/
structure HeldMessage where
  /-- the text, cut to what is kept -/
  text : String
  /-- the moment from which on it is gone -/
  expiryMs : Nat
  /-- its width in columns -/
  width : UInt32
  /-- seconds for each column -/
  interval : Single
deriving DecidableEq

/-- What an order changed. -/
inductive SignChange
  /-- the power state is now this -/
  | power (on : Bool)
  /-- the inversion is now this -/
  | inversion (on : Bool)
  /-- there is a new message, cut if it was too long -/
  | message (truncated : Bool)
deriving DecidableEq

/-- What the picture of a message depends on. -/
structure ScrolledText where
  /-- the text -/
  text : String
  /-- its width in columns -/
  width : UInt32
  /-- columns that have scrolled out -/
  offset : UInt32
deriving DecidableEq

/-- What the picture depends on besides the clock. -/
structure SignView where
  /-- lit and dark are exchanged -/
  inverted : Bool
  /-- the message, if there is one -/
  message : Option ScrolledText
deriving DecidableEq

/-- The sign. -/
@[ext] structure Sign where
  /-- the panels are to be powered -/
  powered : Bool
  /-- lit and dark are exchanged -/
  inverted : Bool
  /-- the message -/
  message : Option HeldMessage
  /-- columns that have scrolled out, with fractions -/
  scrolledOut : Single
  /-- the bitmap that every panel has accepted -/
  confirmed : Option Bitmap
deriving DecidableEq

namespace Sign

/-- Powered, not inverted, without a message. -/
def new : Sign := ⟨true, false, none, .zero, none⟩

/-! ## Switches -/

/-- The sign with another power state. -/
def withPower (on : Bool) (s : Sign) : Sign := { s with powered := on }

/-- The sign with another inversion. -/
def withInversion (on : Bool) (s : Sign) : Sign := { s with inverted := on }

/-! ## Messages -/

/-- The moment a message that comes now is gone. -/
def expiryOf (c : Timings) (nowMs : Nat) : Nat := min (nowMs + c.lifetimeMs) lastMoment

/-- Replaces the message. The text is cut to what is kept; the answer tells whether it was. -/
def holdMessage (c : Timings) (text : String) (width : UInt32) (nowMs : Nat) (s : Sign) :
    Bool × Sign :=
  let held : HeldMessage :=
    { text := Text.fit maxMessage text
      expiryMs := expiryOf c nowMs
      width := width
      interval := c.secondsPerColumn width }
  (decide (maxMessage < Text.byteCount text), { s with message := some held, scrolledOut := .zero })

/-- Measures the message that is held and sets its scrolling. -/
def remeasure (c : Timings) (measure : String → UInt32) (s : Sign) : Sign :=
  match s.message with
  | none => s
  | some held =>
    let width := measure held.text
    { s with message := some { held with width := width, interval := c.secondsPerColumn width } }

/-- The text that is to be seen at a moment. -/
def visibleText (nowMs : Nat) (s : Sign) : Option String :=
  match s.message with
  | none => none
  | some held => if nowMs < held.expiryMs then some held.text else none

/-- Drops a message that is gone; the answer tells whether there was one. -/
def dropExpired (nowMs : Nat) (s : Sign) : Bool × Sign :=
  match s.message with
  | none => (false, s)
  | some held =>
    if held.expiryMs ≤ nowMs then (true, { s with message := none, scrolledOut := .zero })
    else (false, s)

/-- The seconds for each column of the message, zero without one. -/
def secondsPerColumn (s : Sign) : Single :=
  match s.message with
  | none => .zero
  | some held => held.interval

/-! ## Scrolling -/

/-- An offset after some seconds at a message's pace. It starts again at the message's width, and
at zero where the arithmetic leaves the numbers from zero on. -/
def HeldMessage.advance (held : HeldMessage) (tickS offset : Single) : Single :=
  let next := (offset + tickS / held.interval) % .ofNat .single held.width.toNat
  if next.isFinite && Binary.zero.le next then next else .zero

/-- Scrolls on by some seconds. A message that fits the panel does not move. -/
def scroll (tickS : Single) (s : Sign) : Sign :=
  match s.message with
  | none => s
  | some held =>
    if held.interval.le .zero || held.width == 0 then s
    else { s with scrolledOut := HeldMessage.advance held tickS s.scrolledOut }

/-- What the picture depends on. -/
def view (s : Sign) : SignView where
  inverted := s.inverted
  message := s.message.map fun held =>
    ⟨held.text, held.width, UInt32.ofNat (s.scrolledOut.truncate 32)⟩

/-! ## The bitmap on the panels -/

/-- The bitmap is not the one that every panel has accepted. -/
def lacks (bitmap : Bitmap) (s : Sign) : Bool := s.confirmed != some bitmap

/-- Every panel has accepted the bitmap. -/
def confirm (bitmap : Bitmap) (s : Sign) : Sign := { s with confirmed := some bitmap }

/-- Nothing is known about what the panels show. -/
def forgetConfirmed (s : Sign) : Sign := { s with confirmed := none }

/-! ## Orders -/

/-- Carries out an order. A message is measured as it is kept, not as it came. -/
def obey (c : Timings) (measure : String → UInt32) (order : Order) (nowMs : Nat) (s : Sign) :
    SignChange × Sign :=
  match order with
  | .power on => (.power on, s.withPower on)
  | .inversion on => (.inversion on, s.withInversion on)
  | .message text =>
    let (truncated, s) := s.holdMessage c text 0 nowMs
    (.message truncated, s.remeasure c measure)

end Sign

end Marquee
