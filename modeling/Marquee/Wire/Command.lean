import Marquee.Wire.Frame

/-!
# Panel commands

The command language of a panel: nine opcodes and the data that each carries. The host makes frames
of commands with `Command.toFrame?`, and the panel makes commands of frames with
`Command.ofFrame?`.
-/

namespace Marquee

/-- The number of columns of a panel. -/
def panelWidth : Nat := 120

/-- The number of rows of a panel. -/
def panelHeight : Nat := 7

/-- The number of columns in one half of a panel. -/
def halfWidth : Nat := 60

/-- The commands that a panel understands. -/
inductive Opcode
  /-- show text in the panel's own font -/
  | text
  /-- replace the shown bitmap -/
  | bitmap
  /-- store a new identity -/
  | storeId
  /-- ask for the identity -/
  | askId
  /-- pass bytes through to the auxiliary serial output -/
  | passThrough
  /-- switch the power relay -/
  | relay
  /-- exchange the shown and the hidden bitmap -/
  | flip
  /-- write the first half of the hidden bitmap -/
  | firstHalf
  /-- write the second half of the hidden bitmap -/
  | secondHalf
deriving DecidableEq

namespace Opcode

/-- The byte that names the command on the wire. -/
def toByte : Opcode → UInt8
  | .text => 0xA1
  | .bitmap => 0xA2
  | .storeId => 0xA3
  | .askId => 0xA4
  | .passThrough => 0xA5
  | .relay => 0xA6
  | .flip => 0xB2
  | .firstHalf => 0xB3
  | .secondHalf => 0xB4

/-- Every opcode, in the order of their bytes. -/
def all : List Opcode :=
  [.text, .bitmap, .storeId, .askId, .passThrough, .relay, .flip, .firstHalf, .secondHalf]

/-- The command that a byte names. -/
def ofByte? (byte : UInt8) : Except FrameError Opcode :=
  match all.find? fun o => o.toByte == byte with
  | some opcode => .ok opcode
  | none => .error (.unknownOpcode byte)

theorem ofByte?_toByte (o : Opcode) : ofByte? o.toByte = .ok o := by
  cases o <;> rfl

end Opcode

/-- A command with its data. -/
inductive Command
  /-- text at a position -/
  | text (x y : Int8) (bytes : List UInt8)
  /-- a bitmap, one byte per column -/
  | bitmap (bytes : List UInt8)
  /-- the identity to store -/
  | storeId (id : UInt8)
  /-- the question for the identity -/
  | askId
  /-- bytes for the auxiliary serial output -/
  | passThrough (bytes : List UInt8)
  /-- the wanted state of the relay -/
  | relay (on : Bool)
  /-- show the hidden bitmap -/
  | flip
  /-- columns 0 to 59 of the hidden bitmap -/
  | firstHalf (bytes : List UInt8)
  /-- columns 60 to 119 of the hidden bitmap -/
  | secondHalf (bytes : List UInt8)
deriving DecidableEq

namespace Command

/-- The opcode of a command. -/
def opcode : Command → Opcode
  | .text .. => .text
  | .bitmap _ => .bitmap
  | .storeId _ => .storeId
  | .askId => .askId
  | .passThrough _ => .passThrough
  | .relay _ => .relay
  | .flip => .flip
  | .firstHalf _ => .firstHalf
  | .secondHalf _ => .secondHalf

/-- The payload bytes of a command, before their number is checked. Coordinates travel in two's
complement, the relay state as zero or one. -/
def payloadBytes : Command → List UInt8
  | .text x y bytes => x.toUInt8 :: y.toUInt8 :: bytes
  | .bitmap bytes | .passThrough bytes | .firstHalf bytes | .secondHalf bytes => bytes
  | .storeId id => [id]
  | .relay on => [if on then 1 else 0]
  | .askId | .flip => []

/-- The frame of a command, if its data fits one. -/
def toFrame? (c : Command) : Except FrameError Frame :=
  Frame.new? c.opcode.toByte c.payloadBytes

/-- The command with this opcode and these payload bytes. Only text, identity and relay ask for a
shape here; any byte but zero switches the relay on. -/
def ofPayload? : Opcode → List UInt8 → Except FrameError Command
  | .text, x :: y :: bytes => .ok (.text x.toInt8 y.toInt8 bytes)
  | .bitmap, bytes => .ok (.bitmap bytes)
  | .storeId, [id] => .ok (.storeId id)
  | .askId, _ => .ok .askId
  | .passThrough, bytes => .ok (.passThrough bytes)
  | .relay, [state] => .ok (.relay (state != 0))
  | .flip, _ => .ok .flip
  | .firstHalf, bytes => .ok (.firstHalf bytes)
  | .secondHalf, bytes => .ok (.secondHalf bytes)
  | _, _ => .error .invalidFrame

/-- The command that a frame carries. -/
def ofFrame? (f : Frame) : Except FrameError Command :=
  match Opcode.ofByte? f.opcode with
  | .error e => .error e
  | .ok opcode => ofPayload? opcode f.payload.toList

end Command

end Marquee
