import Marquee.Sign.Basic

/-!
# Work on the sign as data and in steps

The sections in which both sides work on the sign, as data: any of them may follow any other
(`SignOperation`). The timings are given each time; nothing says that they are usable, or the same
as before.

`Sign.obey` says what an order comes to. Here an order is also carried out as work in steps
(`Sign.obeyBy`): a message is stored character by character as long as there is room, at first
without a width, and is then measured. Measuring is an action of its own, which may have a state and
is asked for where it is due, so that one can tell when it is asked and for which text.
-/

namespace Marquee

/-! ## Operations -/

/-- One section of work on the sign. -/
inductive SignOperation
  /-- sets the power state -/
  | power (on : Bool)
  /-- sets the inversion -/
  | inversion (on : Bool)
  /-- replaces the message by a text of some width -/
  | hold (c : Timings) (text : String) (width : UInt32) (nowMs : Nat)
  /-- carries out an order; messages are measured -/
  | obey (c : Timings) (measure : String → UInt32) (order : Order) (nowMs : Nat)
  /-- drops the message if it is gone -/
  | dropExpired (nowMs : Nat)
  /-- scrolls on -/
  | scroll (tickS : Single)
  /-- every panel has accepted a bitmap -/
  | confirm (bitmap : Bitmap)
  /-- nothing is known any more about what the panels show -/
  | forgetConfirmed

namespace Sign

/-- The sign after an operation. -/
def perform (s : Sign) : SignOperation → Sign
  | .power on => s.withPower on
  | .inversion on => s.withInversion on
  | .hold c text width nowMs => (s.holdMessage c text width nowMs).2
  | .obey c measure order nowMs => (s.obey c measure order nowMs).2
  | .dropExpired nowMs => (s.dropExpired nowMs).2
  | .scroll tickS => s.scroll tickS
  | .confirm bitmap => s.confirm bitmap
  | .forgetConfirmed => s.forgetConfirmed

/-- The sign after a series of operations. -/
def performAll (s : Sign) (operations : List SignOperation) : Sign := operations.foldl perform s

end Sign

/-! ## Orders step by step -/

namespace Text

/-- Adds a character to a text that has room for so many bytes. -/
def push? (room : Nat) (stored : String) (c : Char) : Option String :=
  if byteCount stored + c.utf8Size ≤ room then some (stored.push c) else none

/-- Adds characters one after another up to the first that there is no room for. The answer tells
whether there was one. -/
def store (room : Nat) (stored : String) : List Char → Bool × String
  | [] => (false, stored)
  | c :: rest =>
    match push? room stored c with
    | some stored => store room stored rest
    | none => (true, stored)

end Text

namespace Sign

/-- Replaces the message by a text that is stored character by character. -/
def storeMessage (c : Timings) (text : String) (width : UInt32) (nowMs : Nat) (s : Sign) :
    Bool × Sign :=
  let (truncated, stored) := Text.store maxMessage "" text.toList
  let held : HeldMessage :=
    { text := stored
      expiryMs := expiryOf c nowMs
      width := width
      interval := c.secondsPerColumn width }
  (truncated, { s with message := some held, scrolledOut := .zero })

variable {m : Type → Type} [Monad m]

/-- Has the message that is held measured, and sets its scrolling. -/
def remeasureBy (c : Timings) (measure : String → m UInt32) (s : Sign) : m Sign :=
  match s.message with
  | none => pure s
  | some held => do
    let width ← measure held.text
    let held := { held with width := width, interval := c.secondsPerColumn width }
    return { s with message := some held }

/-- Carries out an order. A message is stored without a width, and measured as it was stored. -/
def obeyBy (c : Timings) (measure : String → m UInt32) (order : Order) (nowMs : Nat) (s : Sign) :
    m (SignChange × Sign) :=
  match order with
  | .power on => pure (.power on, s.withPower on)
  | .inversion on => pure (.inversion on, s.withInversion on)
  | .message text => do
    let (truncated, stored) := s.storeMessage c text 0 nowMs
    let measured ← stored.remeasureBy c measure
    return (.message truncated, measured)

/-- A measure that makes a note of every text that it is asked for. -/
def noting (measure : String → UInt32) (text : String) : StateM (List String) UInt32 :=
  fun asked => (measure text, asked ++ [text])

end Sign

end Marquee
