import Marquee.Bytes
import Marquee.Text.Quoted

/-!
# Frames

A request is one frame: an opcode byte, a length byte and that many payload bytes. An answer has
the same shape with a status byte in front, zero on success. Payloads carry their bound in their
type, so that the length byte never wraps; the only way to fail is to offer too many bytes
(`Payload.ofList?`) or too little room (`Frame.encodeInto`).
-/

namespace Marquee

/-- The largest payload: its length travels in one byte. -/
def maxPayload : Nat := 255

/-- The status of a command that succeeded. -/
def statusOk : UInt8 := 0

/-- The status with which a panel refuses a frame. -/
def statusRefused : UInt8 := 1

/-- What can be wrong with a frame. -/
inductive FrameError
  /-- the payload does not fit the length byte -/
  | payloadTooLarge
  /-- more bytes are needed -/
  | incomplete
  /-- the payload does not have the shape that the opcode asks for -/
  | invalidFrame
  /-- no command has this opcode byte -/
  | unknownOpcode (byte : UInt8)
  /-- the frame is longer than the room for it -/
  | bufferTooSmall
deriving DecidableEq

/-- The wording of a frame error. -/
def FrameError.message : FrameError → String
  | .payloadTooLarge => "payload exceeds 255 bytes"
  | .incomplete => "incomplete frame"
  | .invalidFrame => "invalid frame"
  | .unknownOpcode byte => "unknown opcode " ++ Text.markedHex byte
  | .bufferTooSmall => "buffer too small"

/-! ## Payloads -/

/-- At most 255 bytes. -/
@[ext] structure Payload where
  /-- the bytes in order -/
  toList : List UInt8
  /-- they fit the length byte -/
  length_le : toList.length ≤ maxPayload
deriving DecidableEq

namespace Payload

/-- No bytes. -/
def empty : Payload := ⟨[], by decide⟩

/-- One byte. -/
def single (b : UInt8) : Payload := ⟨[b], Nat.le_add_left 1 254⟩

/-- The bytes as a payload, if there are not too many. -/
def ofList? (bytes : List UInt8) : Except FrameError Payload :=
  if h : bytes.length ≤ maxPayload then .ok ⟨bytes, h⟩ else .error .payloadTooLarge

/-- The number of bytes, as it travels. -/
def lengthByte (p : Payload) : UInt8 := UInt8.ofNat p.toList.length

theorem ofList?_toList (p : Payload) : ofList? p.toList = .ok p := dif_pos p.length_le

theorem ofList?_of_le {bytes : List UInt8} (h : bytes.length ≤ maxPayload) :
    ofList? bytes = .ok ⟨bytes, h⟩ := dif_pos h

theorem ofList?_of_lt {bytes : List UInt8} (h : maxPayload < bytes.length) :
    ofList? bytes = .error .payloadTooLarge := dif_neg (by omega)

/-- The length byte does not wrap. -/
@[simp] theorem toNat_lengthByte (p : Payload) : p.lengthByte.toNat = p.toList.length := by
  have := p.length_le
  unfold maxPayload at this
  simp only [lengthByte, UInt8.toNat_ofNat']
  omega

end Payload

/-! ## Requests -/

/-- A request from the host to a panel. -/
@[ext] structure Frame where
  /-- the opcode byte, which need not name a command -/
  opcode : UInt8
  /-- the command's data -/
  payload : Payload
deriving DecidableEq

namespace Frame

/-- A frame with these payload bytes, if there are not too many. -/
def new? (opcode : UInt8) (bytes : List UInt8) : Except FrameError Frame :=
  (Payload.ofList? bytes).map (Frame.mk opcode)

/-- A frame without payload. -/
def empty (opcode : UInt8) : Frame := ⟨opcode, .empty⟩

/-- The number of bytes of the encoded frame. -/
def size (f : Frame) : Nat := 2 + f.payload.toList.length

/-- The bytes of a frame: opcode, length, payload. -/
def encode (f : Frame) : List UInt8 :=
  f.opcode :: f.payload.lengthByte :: f.payload.toList

/-- Writes the frame to the front of a buffer. The answer is the number of bytes written, or an
error that leaves the buffer as it was, together with the buffer afterwards. -/
def encodeInto (f : Frame) (buffer : List UInt8) : Except FrameError Nat × List UInt8 :=
  if buffer.length < f.size then (.error .bufferTooSmall, buffer)
  else (.ok f.size, f.encode ++ buffer.drop f.size)

@[simp] theorem length_encode (f : Frame) : f.encode.length = f.size := by
  simp only [encode, size, List.length_cons]; omega

end Frame

/-! ## Answers -/

/-- The two bytes that start every answer. -/
structure Header where
  /-- zero on success -/
  status : UInt8
  /-- the number of payload bytes that follow -/
  length : UInt8
deriving DecidableEq

namespace Header

/-- The header in its two bytes. -/
def ofBytes (bytes : Bytes 2) : Header :=
  have := bytes.length_toList
  ⟨bytes.toList[0], bytes.toList[1]⟩

/-- The panel reports success. -/
def isOk (h : Header) : Bool := h.status == statusOk

end Header

/-- An answer from a panel to the host. -/
@[ext] structure Response where
  /-- zero on success -/
  status : UInt8
  /-- the result, or details of a failure -/
  payload : Payload
deriving DecidableEq

namespace Response

/-- A success without a result. -/
def ack : Response := ⟨statusOk, .empty⟩

/-- The refusal of a frame. -/
def refused : Response := ⟨statusRefused, .empty⟩

/-- An answer with these payload bytes, if there are not too many. -/
def withStatus? (status : UInt8) (bytes : List UInt8) : Except FrameError Response :=
  (Payload.ofList? bytes).map (Response.mk status)

/-- A success with these payload bytes, if there are not too many. -/
def ok? (bytes : List UInt8) : Except FrameError Response := withStatus? statusOk bytes

/-- The header that announces the answer. -/
def header (r : Response) : Header := ⟨r.status, r.payload.lengthByte⟩

/-- The bytes of an answer: status, length, payload. -/
def encode (r : Response) : List UInt8 :=
  r.status :: r.payload.lengthByte :: r.payload.toList

end Response

end Marquee
