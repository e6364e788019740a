import Marquee.Wire.Command

/-!
# What can go wrong on a link

A call on a panel is either turned away before anything is sent (`ArgumentError`) or fails as a
command that was sent (`ExchangeError`, which names the opcode). Bringing up a link has failures
of its own (`OpeningError`).
-/

namespace Marquee

/-- The longest text for a panel's own font, in bytes. -/
def maxPanelText : Nat := 120

/-- A command was sent and did not succeed. -/
inductive ExchangeError
  /-- the panel answered with another status than success -/
  | status (opcode expected got : UInt8)
  /-- no complete answer in time -/
  | timeout (opcode : UInt8)
  /-- the channel failed -/
  | io (opcode : UInt8)
  /-- the answer has a wrong length -/
  | unexpectedResponse (opcode : UInt8) (length : Nat)
deriving DecidableEq

/-- The wording of an exchange error. -/
def ExchangeError.message : ExchangeError → String
  | .status opcode expected got =>
    "command " ++ Text.markedHex opcode ++ ": expected status " ++ toString expected.toNat ++
      ", got " ++ toString got.toNat
  | .timeout opcode => "command " ++ Text.markedHex opcode ++ ": timed out"
  | .io opcode => "command " ++ Text.markedHex opcode ++ ": link i/o failed"
  | .unexpectedResponse opcode length =>
    "command " ++ Text.markedHex opcode ++ ": unexpected response of " ++ toString length ++
      " bytes"

/-- A call's arguments are out of bounds; nothing was sent. -/
inductive ArgumentError
  /-- a bitmap without exactly one byte per column -/
  | bitmapLength (expected got : Nat)
  /-- a text over the limit, which is in bytes -/
  | textTooLong (length : Nat)
  /-- a coordinate that is no signed byte -/
  | coordinateOutOfRange (value : Int)
  /-- data that fits no frame -/
  | payloadTooLarge
deriving DecidableEq

/-- The wording of an argument error. -/
def ArgumentError.message : ArgumentError → String
  | .bitmapLength expected got =>
    "bitmap must be " ++ toString expected ++ " bytes, got " ++ toString got
  | .textTooLong length =>
    "text is " ++ toString length ++ " bytes, limit is " ++ toString maxPanelText
  | .coordinateOutOfRange value =>
    "coordinate " ++ toString value ++ " does not fit a signed byte"
  | .payloadTooLarge => "payload does not fit a frame"

/-- Any failure of a call on a panel. -/
inductive LinkError
  /-- a command failed -/
  | exchange (error : ExchangeError)
  /-- the arguments were turned away -/
  | argument (error : ArgumentError)
deriving DecidableEq

/-- The wording of a link error. -/
def LinkError.message : LinkError → String
  | .exchange e => e.message
  | .argument e => e.message

/-- A link could not be brought up. -/
inductive OpeningError
  /-- it does not exist or cannot be opened -/
  | unavailable
  /-- it was opened, and the panel did not tell its identity -/
  | noResponse (error : ExchangeError)
deriving DecidableEq

/-- The wording of an opening error. -/
def OpeningError.message : OpeningError → String
  | .unavailable => "link unavailable"
  | .noResponse e => "no identity response: " ++ e.message

end Marquee
