import Marquee.Link.Channel
import Marquee.Panel.Firmware
import Marquee.Wire.Reader

/-!
# A line to an emulated panel

`PanelLine` is a channel whose far end is an emulated panel. Written bytes go to the panel's frame
reader; each frame is handled as soon as it is complete, and a responsive panel's answer joins the
queue of received bytes.
-/

namespace Marquee

/-- A channel with an emulated panel at its far end. -/
structure PanelLine where
  /-- the panel -/
  panel : Firmware
  /-- the panel's reader of frames -/
  reader : FrameReader
  /-- answers that were not read yet -/
  pending : List UInt8
  /-- what the panel has said -/
  journal : Journal
deriving DecidableEq

namespace PanelLine

/-- A fresh line to a panel. -/
def ofPanel (panel : Firmware) : PanelLine := ⟨panel, .idle, [], []⟩

/-- A fresh line to a panel as it comes up. -/
def new (id : UInt8) : PanelLine := ofPanel (.new id)

/-- Makes the panel answer from now on, or keeps it from answering. -/
def setResponsive (on : Bool) (l : PanelLine) : PanelLine :=
  { l with panel := { l.panel with responsive := on } }

/-- Has the panel execute a complete frame; the answer is queued if the panel is responsive. -/
def deliver (frame : Frame) (l : PanelLine) : PanelLine :=
  let (response, panel) := l.panel.answer frame
  { l with
    panel := panel
    pending := if panel.responsive then l.pending ++ response.encode else l.pending
    journal := l.journal ++ l.panel.remarks frame }

/-- Takes one written byte. -/
def receive (l : PanelLine) (byte : UInt8) : PanelLine :=
  match l.reader.take byte with
  | (none, reader) => { l with reader := reader }
  | (some frame, reader) => { l with reader := reader }.deliver frame

instance : Channel PanelLine where
  write bytes := fun l => (.ok (), bytes.foldl receive l)
  flush := pure ()
  read n := fun l =>
    let (answer, pending) := takeExactly n l.pending
    (answer, { l with pending := pending })
  discard := fun l => (.ok (), { l with pending := [] })
  takeRemarks l := (l.journal, { l with journal := [] })

end PanelLine

end Marquee
