import Marquee.Journal
import Marquee.Link.Channel
import Marquee.Link.Error
import Marquee.Text.Utf8

/-!
# Links to panels

A link sends one command and waits for its answer (`Link.exchange`). Every call below is built
on that one operation and checks its arguments before anything is sent. A link may also have
something to say about its work; `Link.takeRemarks` takes what was said since the last time.
-/

namespace Marquee

/-- A state with a request and answer link to one panel in it. -/
class Link (ℓ : Type) where
  /-- sends one command and waits for the payload of a successful answer -/
  exchange : Opcode → List UInt8 → Attempt ℓ LinkError (List UInt8)
  /-- takes the remarks made so far -/
  takeRemarks : ℓ → Journal × ℓ := fun link => ([], link)

namespace Link

variable {ℓ : Type} [Link ℓ]

/-! ## Checks -/

/-- The bitmap, if it has one byte per column. -/
def wholeBitmap (bytes : List UInt8) : Except LinkError (Bytes panelWidth) :=
  match Bytes.ofList? panelWidth bytes with
  | some bitmap => .ok bitmap
  | none => .error (.argument (.bitmapLength panelWidth bytes.length))

/-- The text, if the panel can hold it. -/
def fittingText (text : String) : Except LinkError String :=
  if text.utf8ByteSize ≤ maxPanelText then .ok text
  else .error (.argument (.textTooLong text.utf8ByteSize))

/-- The coordinate as a signed byte, if it is one. -/
def signedByte (value : Int) : Except LinkError Int8 :=
  if -128 ≤ value ∧ value ≤ 127 then .ok (Int8.ofInt value)
  else .error (.argument (.coordinateOutOfRange value))

/-- The frame of a command, if its data fits one. -/
def frameOf (command : Command) : Except LinkError Frame :=
  match command.toFrame? with
  | .ok frame => .ok frame
  | .error _ => .error (.argument .payloadTooLarge)

/-! ## Calls -/

/-- Sends a command with its data. -/
def send (command : Command) : Attempt ℓ LinkError (List UInt8) := do
  let frame ← frameOf command
  exchange command.opcode frame.payload.toList

/-- Sends a command whose answer carries nothing of interest. -/
def tell (command : Command) : Attempt ℓ LinkError Unit := do
  let _ ← send command

/-- Asks the panel for its identity, which is one byte. -/
def askIdentity : Attempt ℓ LinkError UInt8 := do
  match ← send .askId with
  | [id] => return id
  | other => throw (.exchange (.unexpectedResponse Opcode.askId.toByte other.length))

/-- Has the panel store a new identity. -/
def storeId (id : UInt8) : Attempt ℓ LinkError Unit := tell (.storeId id)

/-- Switches the power relay. -/
def switchRelay (on : Bool) : Attempt ℓ LinkError Unit := tell (.relay on)

/-- Shows text in the panel's own font. The length is checked first, then x, then y. -/
def showText (text : String) (x y : Int) : Attempt ℓ LinkError Unit := do
  let text ← fittingText text
  let x ← signedByte x
  let y ← signedByte y
  tell (.text x y (Text.utf8 text))

/-- Replaces the shown bitmap. -/
def showBitmap (bytes : List UInt8) : Attempt ℓ LinkError Unit := do
  let bitmap ← wholeBitmap bytes
  tell (.bitmap bitmap.toList)

/-- Shows the hidden bitmap. -/
def flip : Attempt ℓ LinkError Unit := tell .flip

/-- Writes the hidden bitmap in two halves and then shows it. The first failure ends the call, so
that a bitmap is shown whole or not at all. -/
def showHalves (bytes : List UInt8) : Attempt ℓ LinkError Unit := do
  let bitmap ← wholeBitmap bytes
  tell (.firstHalf (bitmap.toList.take halfWidth))
  tell (.secondHalf (bitmap.toList.drop halfWidth))
  flip

/-- Passes bytes through to the panel's auxiliary serial output. -/
def passThrough (bytes : List UInt8) : Attempt ℓ LinkError Unit := tell (.passThrough bytes)

end Link

end Marquee
