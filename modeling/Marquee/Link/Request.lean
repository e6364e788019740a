import Marquee.Link.Calls

/-!
# Requests

What a call asks of a panel is a list of requests, which can be told from its arguments alone
(`Call.requests`); a call with arguments out of bounds asks for nothing. Requests are exchanged one
after another, and the first that fails is the last one (`Link.exchangeAll`).
-/

namespace Marquee

/-- An opcode with a payload. -/
structure Request where
  /-- what is asked for -/
  opcode : Opcode
  /-- the data -/
  payload : Payload
deriving DecidableEq

namespace Request

/-- The frame of a request. -/
def frame (r : Request) : Frame := ⟨r.opcode.toByte, r.payload⟩

/-- The request with these payload bytes, if there are not too many. -/
def of? (opcode : Opcode) (bytes : List UInt8) : Except ArgumentError Request :=
  if fits : bytes.length ≤ maxPayload then .ok ⟨opcode, ⟨bytes, fits⟩⟩
  else .error .payloadTooLarge

/-- This request and no other. -/
def only? (opcode : Opcode) (bytes : List UInt8) : Except ArgumentError (List Request) :=
  (of? opcode bytes).map ([·])

end Request

/-- The value is a signed byte. -/
def FitsSignedByte (value : Int) : Prop := -128 ≤ value ∧ value ≤ 127

instance (value : Int) : Decidable (FitsSignedByte value) := inferInstanceAs (Decidable (_ ∧ _))

/-- The requests of a call, in their order, or why the call is turned away. -/
def Call.requests : Call → Except ArgumentError (List Request)
  | .exchange opcode payload => Request.only? opcode payload
  | .send command => Request.only? command.opcode command.payloadBytes
  | .askIdentity => .ok [⟨.askId, .empty⟩]
  | .storeId id => .ok [⟨.storeId, .single id⟩]
  | .switchRelay on => .ok [⟨.relay, .single (if on then 1 else 0)⟩]
  | .showText text x y =>
    if maxPanelText < text.utf8ByteSize then .error (.textTooLong text.utf8ByteSize)
    else if FitsSignedByte x then
      if FitsSignedByte y then
        Request.only? .text ((Int8.ofInt x).toUInt8 :: (Int8.ofInt y).toUInt8 :: Text.utf8 text)
      else .error (.coordinateOutOfRange y)
    else .error (.coordinateOutOfRange x)
  | .showBitmap bytes =>
    if bytes.length = panelWidth then Request.only? .bitmap bytes
    else .error (.bitmapLength panelWidth bytes.length)
  | .flip => .ok [⟨.flip, .empty⟩]
  | .showHalves bytes =>
    if bytes.length = panelWidth then do
      let first ← Request.of? .firstHalf (bytes.take halfWidth)
      let second ← Request.of? .secondHalf (bytes.drop halfWidth)
      return [first, second, ⟨.flip, .empty⟩]
    else .error (.bitmapLength panelWidth bytes.length)
  | .passThrough bytes => Request.only? .passThrough bytes

/-- The frames of a call, in their order. A call that is turned away has none. -/
def Call.frames (call : Call) : List Frame :=
  match call.requests with
  | .ok requests => requests.map Request.frame
  | .error _ => []

namespace Link

variable {ℓ : Type} [Link ℓ]

/-- Exchanges requests one after another, up to the first failure. -/
def exchangeAll : List Request → Attempt ℓ LinkError Unit
  | [] => pure ()
  | r :: rest => do
    let _ ← exchange r.opcode r.payload.toList
    exchangeAll rest

/-- Exchanges the requests of a call, unless the call is turned away. -/
def carry : Except ArgumentError (List Request) → Attempt ℓ LinkError Unit
  | .error e => throw (.argument e)
  | .ok requests => exchangeAll requests

end Link

end Marquee
