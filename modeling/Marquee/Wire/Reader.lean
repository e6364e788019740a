import Marquee.Wire.Frame

/-!
# Reading frames from a byte stream

`FrameReader` is the panel's side of the line. Bytes come one at a time and every byte means
something, so reading cannot fail: after a frame the reader is idle again, and the next byte is
an opcode. What it still waits for is part of its state; a payload in progress is always shorter
than announced.
-/

namespace Marquee

/-- What has been read of the frame in progress. -/
inductive FrameReader
  /-- between frames -/
  | idle
  /-- after the opcode byte -/
  | opened (opcode : UInt8)
  /-- inside a payload of the announced length -/
  | reading (opcode length : UInt8) (received : List UInt8)
      (short : received.length < length.toNat)
deriving DecidableEq

namespace FrameReader

/-- The reader stands between two frames. -/
def isBetweenFrames : FrameReader → Bool
  | .idle => true
  | _ => false

/-- Forgets the frame in progress. -/
def restart (_ : FrameReader) : FrameReader := .idle

/-- Takes one byte. The answer is the frame that it completes, if it completes one. -/
def take (byte : UInt8) : FrameReader → Option Frame × FrameReader
  | .idle => (none, .opened byte)
  | .opened opcode =>
    if h : 0 < byte.toNat then (none, .reading opcode byte [] h)
    else (some (.empty opcode), .idle)
  | .reading opcode length received short =>
    if h : received.length + 1 < length.toNat then
      (none, .reading opcode length (received ++ [byte]) (by simpa using h))
    else
      have fits : (received ++ [byte]).length ≤ maxPayload := by
        have := length.toNat_lt
        simp only [List.length_append, List.length_singleton, maxPayload]
        omega
      (some ⟨opcode, ⟨received ++ [byte], fits⟩⟩, .idle)

/-- Takes bytes up to the end of the first frame. The answer is that frame, the number of bytes
used, and the reader afterwards. -/
def readFrame : List UInt8 → FrameReader → Option Frame × Nat × FrameReader
  | [], r => (none, 0, r)
  | b :: rest, r =>
    match r.take b with
    | (some frame, r) => (some frame, 1, r)
    | (none, r) =>
      match readFrame rest r with
      | (frame?, used, r) => (frame?, used + 1, r)

/-- Takes all bytes, one by one. The answer holds the frames that were completed. -/
def takeAll : List UInt8 → FrameReader → List Frame × FrameReader
  | [], r => ([], r)
  | b :: rest, r =>
    match r.take b with
    | (some frame, r) => let (frames, r) := takeAll rest r; (frame :: frames, r)
    | (none, r) => takeAll rest r

theorem readFrame_used_pos (b : UInt8) (rest : List UInt8) (r : FrameReader) :
    0 < (readFrame (b :: rest) r).2.1 := by
  unfold readFrame
  split
  · exact Nat.one_pos
  · exact Nat.succ_pos _

/-- Takes all bytes by `readFrame`, again and again on what it left. -/
def readAll (bytes : List UInt8) (r : FrameReader) : List Frame × FrameReader :=
  match bytes with
  | [] => ([], r)
  | b :: rest =>
    match h : readFrame (b :: rest) r with
    | (frame?, used, next) =>
      have : 0 < used := by simpa only [h] using readFrame_used_pos b rest r
      let (frames, last) := readAll ((b :: rest).drop used) next
      (frame?.toList ++ frames, last)
termination_by bytes.length
decreasing_by
  simp only [List.length_drop, List.length_cons]
  omega

end FrameReader

end Marquee
