import Marquee.Panel.Traffic
import Marquee.Proofs.Link.Faulty
import Marquee.Proofs.Link.Unsteady
import Marquee.Proofs.Wire.Streams

/-!
# No byte of the traffic is lost

Written bytes may be cut anywhere, so a frame may be completed by a later piece than the one in
which it began, and what counts for its answer is the mark of its last byte
(`FrameReader.takeMarked_eq`). What keeps the books is `Traffic.Conserved`: the reader and the panel
are where the written bytes have brought them, and the bytes that were read, followed by those that
wait to be read, are the answers to the frames so marked. A write adds answers at the end, a read
takes bytes from the front of those that wait or nothing at all, and nothing else touches them.
-/

namespace Marquee

/-! ## Replies -/

namespace Firmware

variable {p q : Firmware}

theorem Like.symm (h : p.Like q) : q.Like p := by
  obtain ⟨on, rfl⟩ := h
  exact ⟨q.responsive, rfl⟩

/-- A panel has the same answer to a frame whether it gives it or not. -/
theorem Like.answer_fst (h : p.Like q) (f : Frame) : (p.answer f).1 = (q.answer f).1 := by
  obtain ⟨on, rfl⟩ := h
  rw [Firmware.answer, Firmware.answer]
  rcases Command.ofFrame? f with e | c
  · rfl
  · cases c with
    | bitmap bytes | firstHalf bytes | secondHalf bytes =>
      simp only [execute]
      rcases Bytes.ofList? _ bytes with _ | block
      · rfl
      · rfl
    | _ => rfl

/-- Panels that are alike but for their answering would reply alike. -/
theorem Like.replies (h : p.Like q) (frames : List (Frame × Bool)) :
    p.replies frames = q.replies frames := by
  induction frames generalizing p q with
  | nil => rfl
  | cons f rest ih => rw [Firmware.replies, Firmware.replies, h.answer_fst, ih (h.answer f.1)]

/-- The replies to a series of frames are those to its parts, the later ones from the panel as the
earlier frames have left it. -/
theorem replies_append (p : Firmware) (frames more : List (Frame × Bool)) :
    p.replies (frames ++ more) =
      p.replies frames ++ (p.handle (frames.map Prod.fst)).replies more := by
  induction frames generalizing p with
  | nil => rfl
  | cons f rest ih => 
    rw [List.cons_append, Firmware.replies, Firmware.replies, ih, List.append_assoc]
    rfl

end Firmware

/-! ## Marked frames -/

namespace FrameReader

/-- Takes marked bytes one by one. The answer holds the frames that were completed, each with the
mark of the byte that completed it. -/
def takeMarked : List (UInt8 × Bool) → FrameReader → List (Frame × Bool) × FrameReader
  | [], r => ([], r)
  | (b, mark) :: rest, r =>
    ((r.take b).1.toList.map (fun f => (f, mark)) ++ (takeMarked rest (r.take b).2).1,
      (takeMarked rest (r.take b).2).2)

/-- A reader takes two pieces of marked bytes one after the other. -/
theorem takeMarked_append (bytes rest : List (UInt8 × Bool)) (r : FrameReader) :
    takeMarked (bytes ++ rest) r =
      ((takeMarked bytes r).1 ++ (takeMarked rest (takeMarked bytes r).2).1,
        (takeMarked rest (takeMarked bytes r).2).2) := by
  induction bytes generalizing r with
  | nil => rfl
  | cons b bytes ih =>
    rw [List.cons_append, takeMarked, takeMarked, ih]
    simp

/-- Without the marks, marked bytes are taken as any bytes. -/
theorem takeAll_map_fst (stream : List (UInt8 × Bool)) (r : FrameReader) :
    takeAll (stream.map Prod.fst) r =
      ((takeMarked stream r).1.map Prod.fst, (takeMarked stream r).2) := by
  induction stream generalizing r with
  | nil => rfl
  | cons b rest ih =>
    rw [List.map_cons, takeAll_cons, ih, takeMarked]
    simp [Function.comp_def]

/-- Bytes with one mark bring frames with that mark. -/
theorem takeMarked_map (mark : Bool) (bytes : List UInt8) (r : FrameReader) :
    takeMarked (bytes.map fun b => (b, mark)) r =
      ((takeAll bytes r).1.map fun f => (f, mark), (takeAll bytes r).2) := by
  induction bytes generalizing r with
  | nil => rfl
  | cons b rest ih =>
    rw [List.map_cons, takeAll_cons, takeMarked, ih]
    simp

/-- A byte that completes a frame leaves nothing in hand. -/
theorem take_of_some {b : UInt8} {r : FrameReader} {f : Frame} (h : (r.take b).1 = some f) :
    (r.take b).2 = .idle ∧ r.held ++ [b] = f.encode := by
  have hidle : (r.take b).2 = .idle := by
    cases r with
    | idle => cases h
    | opened opcode =>
      rcases Nat.eq_zero_or_pos b.toNat with none | some
      · rw [take_opened_of_zero none]
      · rw [take_opened_of_pos some] at h
        cases h
    | reading opcode length received short =>
      by_cases more : received.length + 1 < length.toNat
      · simp [take, more] at h
      · simp [take, more]
  refine ⟨hidle, ?_⟩
  rw [take_held, h, hidle]
  simp

/-- A byte that completes no frame is held. -/
theorem take_of_none {b : UInt8} {r : FrameReader} (h : (r.take b).1 = none) :
    (r.take b).2.held = r.held ++ [b] := by
  rw [take_held, h]
  rfl

/-- A frame is completed by its last byte. -/
theorem takeMarked_eq (stream : List (UInt8 × Bool)) (r : FrameReader) (before : List Bool)
    (hbefore : before.length = r.held.length) :
    (takeMarked stream r).1 =
      Frame.marked (takeAll (stream.map Prod.fst) r).1 (before ++ stream.map Prod.snd) := by
  induction stream generalizing r before with
  | nil => rfl
  | cons b rest ih =>
    obtain ⟨b, mark⟩ := b
    rw [takeMarked, List.map_cons, List.map_cons, takeAll_cons]
    cases h : (r.take b).1 with
    | none =>
      have hlength : (before ++ [mark]).length = (r.take b).2.held.length := by
        rw [take_of_none h, List.length_append, List.length_append, hbefore]
        rfl
      have ih' := ih (r.take b).2 _ hlength
      rw [List.append_assoc] at ih'
      exact ih'
    | some f =>
      obtain ⟨hidle, hf⟩ := take_of_some h
      have hsize : f.size = before.length + 1 := by
        rw [← f.length_encode, ← hf, hbefore, List.length_append]
        rfl
      have ih' := ih .idle [] rfl
      rw [hidle]
      simp [Frame.marked, hsize, ih']

end FrameReader

/-! ## Uses of a line -/

namespace PanelLine

variable {l : PanelLine}

/-- Frames that are delivered in a row are handled in a row, and the answers to all of them join the
queue if the panel is responsive. -/
theorem foldl_deliver (frames : List Frame) (l : PanelLine) :
    (frames.foldl (fun l f => l.deliver f) l).panel = l.panel.handle frames ∧
      (frames.foldl (fun l f => l.deliver f) l).pending =
        l.pending ++ l.panel.replies (frames.map fun f => (f, l.panel.responsive)) := by
  induction frames generalizing l with
  | nil => exact ⟨rfl, (List.append_nil _).symm⟩
  | cons f rest ih =>
    obtain ⟨hpanel, hpending⟩ := ih (l.deliver f)
    rw [deliver_panel, Firmware.answer_responsive, deliver_pending] at hpending
    refine ⟨hpanel, hpending.trans ?_⟩
    rw [List.map_cons, Firmware.replies]
    cases l.panel.responsive <;> simp

/-- A line after bytes were written to it. -/
theorem write_eq (bytes : List UInt8) (l : PanelLine) :
    ∃ l' : PanelLine, Channel.write bytes l = (.ok (), l') ∧
      l'.reader = (l.reader.takeAll bytes).2 ∧
      l'.panel = l.panel.handle (l.reader.takeAll bytes).1 ∧
      l'.pending = l.pending ++
        l.panel.replies ((l.reader.takeAll bytes).1.map fun f => (f, l.panel.responsive)) := by
  obtain ⟨hpanel, hpending⟩ := foldl_deliver (l.reader.takeAll bytes).1 l
  refine ⟨bytes.foldl receive l, rfl, ?_⟩
  rw [foldl_receive]
  exact ⟨rfl, hpanel, hpending⟩

theorem readByte_of_cons {b : UInt8} {rest : List UInt8} (h : l.pending = b :: rest) :
    Channel.readByte l = (.ok b, { l with pending := rest }) := by
  have hread : Channel.read 1 l = (.ok ⟨[b], rfl⟩, { l with pending := rest }) :=
    read_of_pending (show l.pending = (⟨[b], rfl⟩ : Bytes 1).toList ++ rest from h)
  rw [Channel.readByte, Attempt.bind_of_ok hread]
  rfl

/-- Without a received byte a read of one times out. -/
theorem readByte_of_nil (h : l.pending = []) : Channel.readByte l = (.error .timeout, l) := by
  have hread : Channel.read 1 l = (.error .timeout, l) :=
    read_of_short (by rw [h]; exact Nat.one_pos)
  rw [Channel.readByte, Attempt.bind_of_error hread]

end PanelLine

namespace Traffic

variable {p : Firmware} {t : Traffic}

/-- All bytes that went over the line are accounted for. -/
structure Conserved (p : Firmware) (t : Traffic) : Prop where
  /-- the panel's reader has taken every written byte -/
  reader : t.line.reader = (FrameReader.takeMarked t.written .idle).2
  /-- the panel has handled every frame that was completed -/
  panel : t.line.panel.Like
    (p.handle ((FrameReader.takeMarked t.written .idle).1.map Prod.fst))
  /-- what was read and what waits to be read are the answers -/
  replies : t.taken ++ t.line.pending =
    p.replies (FrameReader.takeMarked t.written .idle).1

namespace Conserved

theorem start (p : Firmware) : (Traffic.start p).Conserved p := ⟨rfl, .refl p, rfl⟩

/-- A change of the queue that takes bytes from its front. -/
theorem take (h : t.Conserved p) {bytes rest : List UInt8}
    (hpending : t.line.pending = bytes ++ rest) :
    Conserved p
      { t with line := { t.line with pending := rest }, taken := t.taken ++ bytes } where
  reader := h.reader
  panel := h.panel
  replies := by
    rw [← h.replies, hpending, List.append_assoc]

/-- Bytes that are written become frames, and a reply is queued for each frame that met a panel that
answers. -/
theorem write (h : t.Conserved p) (bytes : List UInt8) : (t.after (.write bytes)).Conserved p := by
  obtain ⟨l, hwrite, hreader, hpanel, hpending⟩ := t.line.write_eq bytes
  have hmarked := FrameReader.takeMarked_map t.line.panel.responsive bytes t.line.reader
  have happend := FrameReader.takeMarked_append t.written
    (bytes.map fun b => (b, t.line.panel.responsive)) .idle
  -- The reader has been through all bytes written before, so it takes up the new ones where it is.
  rw [← h.reader, hmarked] at happend
  rw [after, hwrite]
  refine ⟨?_, ?_, ?_⟩
  · rw [happend, hreader]
  · rw [happend, List.map_append, Firmware.handle_append, hpanel]
    simpa [Function.comp_def] using h.panel.handle _
  · rw [happend, hpending, ← List.append_assoc, h.replies, Firmware.replies_append, h.panel.replies]

/-- Every use of the line keeps the account. -/
theorem after (h : t.Conserved p) (use : LineUse) : (t.after use).Conserved p := by
  cases use with
  | write bytes => exact h.write bytes
  | flush => exact h
  | read n =>
    rcases Nat.lt_or_ge t.line.pending.length n with short | enough
    · rw [Traffic.after, PanelLine.read_of_short short]
      exact h
    · obtain ⟨block, rest, hpending⟩ := exists_block enough
      rw [Traffic.after, PanelLine.read_of_pending hpending]
      exact h.take hpending
  | readByte =>
    rw [Traffic.after]
    cases hpending : t.line.pending with
    | nil =>
      rw [PanelLine.readByte_of_nil hpending]
      exact h
    | cons b rest =>
      rw [PanelLine.readByte_of_cons hpending]
      exact h.take (show t.line.pending = [b] ++ rest from hpending)
  | responsive on =>
    exact ⟨h.reader, Firmware.Like.trans ⟨on, rfl⟩ h.panel, h.replies⟩

theorem course (h : t.Conserved p) (uses : List LineUse) : (t.course uses).Conserved p := by
  induction uses generalizing t with
  | nil => exact h
  | cons use rest ih => exact ih (h.after use)

/-- The panel has handled the frames of the stream. -/
theorem panel_like (h : t.Conserved p) :
    t.line.panel.Like (p.handle (FrameReader.takeAll t.stream .idle).1) := by
  rw [stream, FrameReader.takeAll_map_fst]
  exact h.panel

/-- The panel is what all complete frames have made of it. -/
theorem panel_eq (h : t.Conserved p) :
    t.line.panel = { p.handle (FrameReader.takeAll t.stream .idle).1 with
      responsive := t.line.panel.responsive } := by
  obtain ⟨on, hon⟩ := h.panel_like
  rw [hon]

/-- What was read and what is still queued are the replies to all complete frames that were to be
answered. -/
theorem replies_marked (h : t.Conserved p) :
    t.taken ++ t.line.pending =
      p.replies (Frame.marked (FrameReader.takeAll t.stream .idle).1 t.marks) := by
  rw [h.replies, FrameReader.takeMarked_eq t.written .idle [] rfl]
  rfl

end Conserved

end Traffic

/-- Whatever is done with a line to a panel: the bytes written so far split into frames and a rest
in one way only. The panel is then the one that has handled these frames in order, and what was read
so far, followed by what waits to be read, are the answers to those frames that found the panel
responsive at their last byte. A read of no more bytes than wait takes them from the front, a longer
read is a timeout and changes nothing, and writing and flushing never fail. So the panel does not
depend on how the bytes were cut or on what was read in between. -/
theorem traffic_conserved (p : Firmware) (uses : List LineUse) :
    let t := (Traffic.start p).course uses
    (∃ frames rest, Splits t.stream frames rest ∧
      (∀ frames' rest', Splits t.stream frames' rest' → frames' = frames ∧ rest' = rest) ∧
      t.taken ++ t.line.pending = p.replies (Frame.marked frames t.marks) ∧
      t.line.panel = { p.handle frames with responsive := t.line.panel.responsive }) ∧
    (∀ n, t.line.pending.length < n → Channel.read n t.line = (.error .timeout, t.line)) ∧
    (∀ n, n ≤ t.line.pending.length → ∃ block : Bytes n, block.toList = t.line.pending.take n ∧
      Channel.read n t.line = (.ok block, { t.line with pending := t.line.pending.drop n })) ∧
    (t.line.pending = [] → Channel.readByte t.line = (.error .timeout, t.line)) ∧
    (∀ b rest, t.line.pending = b :: rest →
      Channel.readByte t.line = (.ok b, { t.line with pending := rest })) ∧
    (∀ bytes, (Channel.write bytes t.line).1 = .ok ()) ∧
    Channel.flush t.line = (.ok (), t.line) ∧
    ∀ uses', ((Traffic.start p).course uses').stream = t.stream →
      ((Traffic.start p).course uses').line.panel.Like t.line.panel := by
  intro t
  have conserved (uses : List LineUse) : ((Traffic.start p).course uses).Conserved p :=
    (Traffic.Conserved.start p).course uses
  have h : t.Conserved p := conserved uses
  refine ⟨⟨_, _, FrameReader.splits_iff.mpr ⟨rfl, rfl⟩, ?_, h.replies_marked, h.panel_eq⟩,
    fun n short => PanelLine.read_of_short short, fun n enough => ?_, PanelLine.readByte_of_nil,
    fun b rest => PanelLine.readByte_of_cons, fun bytes => rfl, rfl, fun uses' hstream => ?_⟩
  · intro frames' rest' hsplits
    obtain ⟨rfl, rfl⟩ := FrameReader.splits_iff.mp hsplits
    exact ⟨rfl, rfl⟩
  · have hblock : (t.line.pending.take n).length = n := List.length_take_of_le enough
    exact ⟨⟨t.line.pending.take n, hblock⟩, rfl,
      PanelLine.read_of_pending (List.take_append_drop n _).symm⟩
  · have hpanel := (conserved uses').panel_like
    rw [hstream] at hpanel
    exact hpanel.trans h.panel_like.symm

end Marquee
