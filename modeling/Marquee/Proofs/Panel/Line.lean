import Marquee.Panel.Line
import Marquee.Proofs.Wire.Commands
import Marquee.Proofs.Wire.Reading

/-!
# What a line does with written bytes

Written bytes are read as frames, and each frame is delivered as soon as it is complete
(`foldl_receive`). A line is in step if the panel stands between two frames and no answer waits
to be read; one whole frame on such a line is executed at once, and its answer, if the panel gives
one, is all that waits (`foldl_receive_encode`).
-/

namespace Marquee.PanelLine

/-! ## Delivered frames -/

@[simp] theorem deliver_panel (f : Frame) (l : PanelLine) :
    (l.deliver f).panel = (l.panel.answer f).2 := rfl

@[simp] theorem deliver_reader (f : Frame) (l : PanelLine) : (l.deliver f).reader = l.reader := rfl

/-- A responsive panel's answer joins the queue. -/
theorem deliver_pending (f : Frame) (l : PanelLine) :
    (l.deliver f).pending =
      if l.panel.responsive then l.pending ++ (l.panel.answer f).1.encode else l.pending := by
  simp only [deliver, Firmware.answer_responsive]

theorem deliver_withReader (f : Frame) (l : PanelLine) (r : FrameReader) :
    ({ l with reader := r } : PanelLine).deliver f = { l.deliver f with reader := r } := rfl

theorem receive_eq (l : PanelLine) (b : UInt8) :
    l.receive b =
      { (l.reader.take b).1.toList.foldl (fun l f => l.deliver f) l with
        reader := (l.reader.take b).2 } := by
  rw [receive]
  rcases h : l.reader.take b with ⟨_ | f, r⟩ <;> rfl

/-- Written bytes deliver the frames that they complete, in order. -/
theorem foldl_receive (bytes : List UInt8) (l : PanelLine) :
    bytes.foldl receive l =
      { (l.reader.takeAll bytes).1.foldl (fun l f => l.deliver f) l with
        reader := (l.reader.takeAll bytes).2 } := by
  induction bytes generalizing l with
  | nil => rfl
  | cons b bytes ih =>
    have frames (fs : List Frame) (r : FrameReader) (l : PanelLine) :
        fs.foldl (fun l f => l.deliver f) { l with reader := r } =
          { fs.foldl (fun l f => l.deliver f) l with reader := r } := by
      induction fs generalizing l with
      | nil => rfl
      | cons f fs ih => rw [List.foldl_cons, deliver_withReader, ih, List.foldl_cons]
    rw [List.foldl_cons, ih, FrameReader.takeAll_cons, receive_eq, List.foldl_append, frames]

/-- The bytes of one frame deliver that frame. -/
theorem foldl_receive_encode {l : PanelLine} (h : l.reader = .idle) (f : Frame) :
    f.encode.foldl receive l = l.deliver f := by
  rw [foldl_receive, h, FrameReader.takeAll_encode]
  change { l.deliver f with reader := .idle } = l.deliver f
  rw [← h]
  rfl

/-! ## Lines in step -/

/-- The panel stands between two frames, and no answer waits to be read. -/
structure InStep (l : PanelLine) : Prop where
  /-- the panel waits for an opcode -/
  reader : l.reader = .idle
  /-- every answer was read -/
  pending : l.pending = []

theorem inStep_ofPanel (p : Firmware) : InStep (ofPanel p) := ⟨rfl, rfl⟩

theorem InStep.setResponsive {l : PanelLine} (h : InStep l) (on : Bool) :
    InStep (l.setResponsive on) := ⟨h.reader, h.pending⟩

end Marquee.PanelLine
