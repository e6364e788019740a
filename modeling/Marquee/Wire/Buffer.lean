import Marquee.Wire.Frame

/-!
# Writing a frame byte by byte

`Frame.encodeInto` says what a buffer holds once a frame was written to it. Here the frame is
written to the buffer step by step: two bytes at their indices, and then the payload into a range. A
step breaks the work off if it reaches over the end of the buffer, and so does a range that is not
as long as the payload, so that one can tell whether the one check that comes first is enough.

A frame is also written to a buffer of its own, with room for the longest frame, and taken from
there.
-/

namespace Marquee

/-- The length of the longest frame. -/
def maxFrame : Nat := 2 + maxPayload

namespace Buffer

/-- Writes a byte at an index, which has to be one of the buffer. -/
def put? (index : Nat) (byte : UInt8) (buffer : List UInt8) : Option (List UInt8) :=
  if index < buffer.length then some (buffer.set index byte) else none

/-- Copies bytes into the range from one index up to another. The range has to lie in the buffer and
to be as long as the bytes are. -/
def copy? (first last : Nat) (bytes buffer : List UInt8) : Option (List UInt8) :=
  if first ≤ last ∧ last ≤ buffer.length ∧ last - first = bytes.length then
    some (buffer.take first ++ bytes ++ buffer.drop last)
  else none

/-- The first bytes of a buffer, which has to have as many. -/
def front? (size : Nat) (buffer : List UInt8) : Option (List UInt8) :=
  if size ≤ buffer.length then some (buffer.take size) else none

end Buffer

namespace Frame

/-- Writes the frame to the front of a buffer. The buffer is measured first, and left as it is if it
is too small. -/
def encodeBy (f : Frame) (buffer : List UInt8) :
    Option (Except FrameError Nat × List UInt8) :=
  if buffer.length < f.size then some (.error .bufferTooSmall, buffer)
  else do
    let buffer ← Buffer.put? 0 f.opcode buffer
    let buffer ← Buffer.put? 1 f.payload.lengthByte buffer
    let buffer ← Buffer.copy? 2 f.size f.payload.toList buffer
    return (.ok f.size, buffer)

/-- The bytes of the frame, from a buffer of zeros to which the frame was written. They are kept in
a list with room for the longest frame. -/
def encodeAlone (f : Frame) : Option (Except FrameError (List UInt8)) := do
  let (written, buffer) ← f.encodeBy (List.replicate maxFrame 0)
  match written with
  | .error e => return .error e
  | .ok size =>
    let bytes ← Buffer.front? size buffer
    return if bytes.length ≤ maxFrame then .ok bytes else .error .bufferTooSmall

end Frame

end Marquee
