import Marquee.Link.Exchange
import Marquee.Link.Request
import Marquee.Panel.Line

/-!
# Unsteady lines

A line on which anything can happen at any time: before every single operation the panel may stop
answering or answer again, and every single operation may fail before it reaches the line. The line
keeps account of the frames that have reached the panel and of what the panel has shown after every
operation.
-/

namespace Marquee

/-- What an operation meets. -/
structure Moment where
  /-- whether the panel answers from now on -/
  responsive : Bool
  /-- how the operation fails -/
  fault : Option ChannelError
deriving DecidableEq

/-- A line to an emulated panel, with all that its operations will meet. -/
structure UnsteadyLine where
  /-- the line -/
  line : PanelLine
  /-- what each operation meets -/
  moments : Nat → Moment
  /-- how many operations there were -/
  operations : Nat
  /-- the frames that have reached the panel -/
  delivered : List Frame
  /-- the shown bitmap at first and after every operation -/
  shown : List Bitmap

namespace UnsteadyLine

/-- A line that has not been used. -/
def ofPanel (p : Firmware) (moments : Nat → Moment) : UnsteadyLine :=
  ⟨.ofPanel p, moments, 0, [], [p.front]⟩

/-- What the next operation meets. -/
def moment (t : UnsteadyLine) : Moment := t.moments t.operations

/-- The line as the next operation finds it. -/
def found (t : UnsteadyLine) : PanelLine := t.line.setResponsive t.moment.responsive

/-- An operation is over, by which some frames have reached the panel. -/
def left (t : UnsteadyLine) (line : PanelLine) (frames : List Frame) : UnsteadyLine :=
  { t with
    line := line
    operations := t.operations + 1
    delivered := t.delivered ++ frames
    shown := t.shown ++ [line.panel.front] }

/-- Runs an operation by which some frames reach the panel, unless it is to fail. -/
def through {α : Type} (operation : Attempt PanelLine ChannelError α) (frames : List Frame) :
    Attempt UnsteadyLine ChannelError α := fun t =>
  match t.moment.fault with
  | some e => (.error e, t.left t.found [])
  | none => ((operation t.found).1, t.left (operation t.found).2 frames)

instance : Channel UnsteadyLine where
  write bytes := fun t => through (Channel.write bytes) (t.line.reader.takeAll bytes).1 t
  flush := through Channel.flush []
  read n := through (Channel.read n) []
  discard := through Channel.discard []

end UnsteadyLine

/-- A link over an unsteady line. -/
abbrev UnsteadyLink : Type := ChannelLink UnsteadyLine

namespace UnsteadyLink

/-- A link that has not been used. -/
def start (p : Firmware) (moments : Nat → Moment) : UnsteadyLink := ⟨.ofPanel p moments⟩

/-- The link after calls, whatever became of them. -/
def course (calls : List Call) (link : UnsteadyLink) : UnsteadyLink :=
  calls.foldl (fun link call => (call.perform link).2) link

/-- The panel. -/
def panel (link : UnsteadyLink) : Firmware := link.channel.line.panel

/-- The shown bitmap at first and after every operation. -/
def shown (link : UnsteadyLink) : List Bitmap := link.channel.shown

/-- The frames that have reached the panel. -/
def delivered (link : UnsteadyLink) : List Frame := link.channel.delivered

end UnsteadyLink

/-! ## Images -/

/-- The frame that exchanges the two sides of a panel. -/
def Frame.flip : Frame := ⟨Opcode.flip.toByte, .empty⟩

namespace Call

/-- The image that a call is to bring to the front, if it has the right size. -/
def image : Call → Option Bitmap
  | .showBitmap bytes | .showHalves bytes => Bytes.ofList? panelWidth bytes
  | _ => none

/-- The calls that show images whole or not at all. The others reach for the hidden bitmap one
command at a time. -/
def Ordinary : Call → Prop
  | .exchange .. | .send _ | .flip => False
  | _ => True

end Call

end Marquee
