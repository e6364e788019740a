import Marquee.Panel.Line

/-!
# Traffic on a line

What passes between a host and the emulated panel behind a line, without a link in between: the host
writes bytes in pieces of any length and reads as many as it likes, and the panel stops answering or
answers again. A `Traffic` keeps a record of all bytes that went either way. Every written byte is
marked with whether the panel was responsive when it came, because a panel answers a frame exactly
if it is responsive when the last byte of the frame comes.
-/

namespace Marquee

/-- Something that is done with a line. -/
inductive LineUse
  /-- the host writes bytes -/
  | write (bytes : List UInt8)
  /-- the host waits until all bytes are sent -/
  | flush
  /-- the host reads so many bytes -/
  | read (n : Nat)
  /-- the host reads one byte -/
  | readByte
  /-- the panel answers from now on, or does not answer any more -/
  | responsive (on : Bool)
deriving DecidableEq

/-- A line with a record of what went over it. -/
structure Traffic where
  /-- the line -/
  line : PanelLine
  /-- the bytes written so far, each with whether the panel was responsive -/
  written : List (UInt8 × Bool)
  /-- the bytes that were read successfully so far -/
  taken : List UInt8

namespace Traffic

/-- A fresh line to a panel. -/
def start (p : Firmware) : Traffic := ⟨.ofPanel p, [], []⟩

/-- The traffic after something was done with the line. A read that fails takes no bytes. -/
def after (t : Traffic) : LineUse → Traffic
  | .write bytes =>
    { t with
      line := (Channel.write bytes t.line).2
      written := t.written ++ bytes.map fun byte => (byte, t.line.panel.responsive) }
  | .flush => { t with line := (Channel.flush t.line).2 }
  | .read n =>
    match Channel.read n t.line with
    | (.ok bytes, line) => { t with line := line, taken := t.taken ++ bytes.toList }
    | (.error _, line) => { t with line := line }
  | .readByte =>
    match Channel.readByte t.line with
    | (.ok byte, line) => { t with line := line, taken := t.taken ++ [byte] }
    | (.error _, line) => { t with line := line }
  | .responsive on => { t with line := t.line.setResponsive on }

/-- The traffic after all that was done with the line. -/
def course (uses : List LineUse) (t : Traffic) : Traffic := uses.foldl after t

/-- All bytes written so far. -/
def stream (t : Traffic) : List UInt8 := t.written.map Prod.fst

/-- The marks of the bytes written so far. -/
def marks (t : Traffic) : List Bool := t.written.map Prod.snd

end Traffic

/-- The frames of a stream, each with the mark of its last byte, from the marks of all bytes. -/
def Frame.marked : List Frame → List Bool → List (Frame × Bool)
  | [], _ => []
  | f :: rest, marks => (f, marks.getD (f.size - 1) false) :: marked rest (marks.drop f.size)

/-- The answers of a panel that executes frames in a row, in bytes: those to the marked frames. -/
def Firmware.replies (p : Firmware) : List (Frame × Bool) → List UInt8
  | [] => []
  | (f, answered) :: rest =>
    (if answered then (p.answer f).1.encode else []) ++ (p.answer f).2.replies rest

end Marquee
