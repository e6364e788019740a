import Marquee.Proofs.Link.Exchange
import Marquee.Proofs.Panel.Line

/-!
# A link over a line

A link over a line in step has the panel execute every frame once, takes the answer whole, and
leaves the line in step, whether the panel answers or not (`exchange_line`). So a command that the
panel cannot refuse does its work in any case, and the host learns of it if the panel is
responsive (`tell_line`). A bitmap in halves comes to the front whole, or the front stays as it
was (`showHalves_line`).
-/

namespace Marquee

/-! ## Answers in a queue -/

/-- A block at the front of a queue is what a read of its length takes. -/
theorem takeExactly_append {n : Nat} (block : Bytes n) (rest : List UInt8) :
    takeExactly n (block.toList ++ rest) = (.ok block, rest) := by
  have hlen := block.length_toList
  rw [takeExactly_of_le (by rw [List.length_append]; omega)]
  have htake : (block.toList ++ rest).take n = block.toList := List.take_left' hlen
  have hdrop : (block.toList ++ rest).drop n = rest := List.drop_left' hlen
  rw [hdrop]
  congr 2
  exact Bytes.ext htake

/-- The two bytes of a header. -/
def Header.toBytes (h : Header) : Bytes 2 := ⟨[h.status, h.length], rfl⟩

@[simp] theorem Header.ofBytes_toBytes (h : Header) : Header.ofBytes h.toBytes = h := rfl

/-- The bytes of a payload, as many as its length byte says. -/
def Payload.toBytes (p : Payload) : Bytes p.lengthByte.toNat := ⟨p.toList, p.toNat_lengthByte.symm⟩

theorem Response.encode_eq (r : Response) :
    r.encode = r.header.toBytes.toList ++ r.payload.toBytes.toList := rfl

namespace PanelLine

/-- A block at the front of the waiting answers is what a read of its length takes. -/
theorem read_of_pending {l : PanelLine} {n : Nat} {block : Bytes n} {rest : List UInt8}
    (h : l.pending = block.toList ++ rest) :
    Channel.read n l = (.ok block, { l with pending := rest }) := by
  change ((takeExactly n l.pending).1, ({ l with pending := (takeExactly n l.pending).2 })) = _
  rw [h, takeExactly_append]

/-- A read past the end of the waiting answers is a timeout. -/
theorem read_of_short {l : PanelLine} {n : Nat} (h : l.pending.length < n) :
    Channel.read n l = (.error .timeout, l) := by
  change ((takeExactly n l.pending).1, ({ l with pending := (takeExactly n l.pending).2 })) = _
  rw [takeExactly_of_lt h]

theorem write_encode {l : PanelLine} (h : l.reader = .idle) (f : Frame) :
    Channel.write f.encode l = (.ok (), l.deliver f) := by
  rw [← foldl_receive_encode h f]
  rfl

/-- The line after its panel has executed a frame and the answer was taken or lost. -/
def executed (f : Frame) (l : PanelLine) : PanelLine := { l.deliver f with pending := [] }

@[simp] theorem executed_panel (f : Frame) (l : PanelLine) :
    (l.executed f).panel = (l.panel.answer f).2 := rfl

theorem InStep.executed {l : PanelLine} (h : InStep l) (f : Frame) : InStep (l.executed f) :=
  ⟨h.reader, rfl⟩

end PanelLine

/-- What the host learns when a panel executes a frame: the payload of a success, the status of a
refusal, and nothing from an unresponsive panel. -/
def Firmware.verdict (opcode : Opcode) (f : Frame) (p : Firmware) :
    Except LinkError (List UInt8) :=
  let response := (p.answer f).1
  if p.responsive then
    if response.header.isOk then .ok response.payload.toList
    else .error (.exchange (.status opcode.toByte statusOk response.status))
  else .error (.exchange (.timeout opcode.toByte))

/-- On a line in step the panel executes the frame once, and the line is in step again. -/
theorem ChannelLink.exchange_line {l : PanelLine} (h : l.InStep) {opcode : Opcode}
    {payload : List UInt8} {f : Frame} (hf : Frame.new? opcode.toByte payload = .ok f) :
    exchange opcode payload ⟨l⟩ = (l.panel.verdict opcode f, ⟨l.executed f⟩) := by
  have hw := PanelLine.write_encode h.reader f
  have hflush : Channel.flush (l.deliver f) = (.ok (), l.deliver f) := rfl
  have hpending := PanelLine.deliver_pending f l
  rw [h.pending, List.nil_append] at hpending
  cases hr : l.panel.responsive with
  | false =>
    rw [hr, if_neg Bool.false_ne_true] at hpending
    have hshort : Channel.read 2 (l.deliver f) = (.error .timeout, l.deliver f) :=
      PanelLine.read_of_short (by rw [hpending]; exact Nat.zero_lt_two)
    rw [exchange_of_header hf hw hflush (readPart_of_timeout _ hshort)]
    simp only [Firmware.verdict, hr, Bool.false_eq_true, if_false]
    rfl
  | true =>
    rw [hr, if_pos rfl, Response.encode_eq] at hpending
    have hheader := PanelLine.read_of_pending hpending
    have hpayload : Channel.read _
        { l.deliver f with pending := (l.panel.answer f).1.payload.toBytes.toList } =
          (.ok (l.panel.answer f).1.payload.toBytes, l.executed f) :=
      PanelLine.read_of_pending (List.append_nil _).symm
    rw [exchange_of_answer hf hw hflush (readPart_of_ok _ hheader) (readPart_of_ok _ hpayload)]
    simp only [Firmware.verdict, hr, if_true]
    rfl

/-! ## Calls -/

namespace Link

variable {l : PanelLine}

theorem send_line (h : l.InStep) {c : Command} {f : Frame} (hf : c.toFrame? = .ok f) :
    send c (⟨l⟩ : ChannelLink PanelLine) = (l.panel.verdict c.opcode f, ⟨l.executed f⟩) := by
  obtain ⟨hopcode, -⟩ := Command.toFrame?_eq_ok_iff.mp hf
  have hnew : Frame.new? c.opcode.toByte f.payload.toList = .ok f :=
    Frame.new?_eq_ok_iff.mpr ⟨hopcode, rfl⟩
  have hframe : frameOf c = .ok f := by rw [frameOf, hf]
  rw [send, hframe]
  exact ChannelLink.exchange_line h hnew

/-- The panel carries out a command that it acknowledges, also when the acknowledgement is lost. -/
theorem tell_line (h : l.InStep) {c : Command} {f : Frame} (hf : c.toFrame? = .ok f)
    {p : Firmware} (he : l.panel.execute c = some (.ack, p)) :
    ∃ l' : PanelLine, l'.InStep ∧ l'.panel = p ∧
      tell c (⟨l⟩ : ChannelLink PanelLine) =
        (if l.panel.responsive then .ok () else .error (.exchange (.timeout c.opcode.toByte)),
          ⟨l'⟩) := by
  have hanswer : l.panel.answer f = (.ack, p) := by
    rw [Firmware.answer_toFrame? _ hf, he, Option.getD_some]
  refine ⟨l.executed f, h.executed f, by rw [PanelLine.executed_panel, hanswer], ?_⟩
  have hsend := send_line h hf
  simp only [Firmware.verdict, hanswer] at hsend
  rw [tell]
  cases hr : l.panel.responsive with
  | true =>
    rw [hr] at hsend
    exact Attempt.bind_of_ok hsend
  | false =>
    rw [hr] at hsend
    exact Attempt.bind_of_error hsend

/-- The relay is switched, also when the acknowledgement is lost. -/
theorem switchRelay_line (h : l.InStep) (on : Bool) :
    ∃ l' : PanelLine, l'.InStep ∧ l'.panel = { l.panel with relay := on } ∧
      switchRelay on (⟨l⟩ : ChannelLink PanelLine) =
        (if l.panel.responsive then .ok ()
          else .error (.exchange (.timeout Opcode.relay.toByte)), ⟨l'⟩) :=
  tell_line h (c := .relay on) (Frame.new?_self ⟨_, .single _⟩) rfl

/-! ### Bitmaps -/

/-- The first half of a bitmap. -/
def firstHalf (bitmap : Bitmap) : Bytes halfWidth :=
  ⟨bitmap.toList.take halfWidth, by
    rw [List.length_take, bitmap.length_toList]; rfl⟩

/-- The second half of a bitmap. -/
def secondHalf (bitmap : Bitmap) : Bytes halfWidth :=
  ⟨bitmap.toList.drop halfWidth, by
    rw [List.length_drop, bitmap.length_toList]; rfl⟩

/-- Both halves of a bitmap make up the bitmap, whatever was there before. -/
theorem withSecondHalf_withFirstHalf (bitmap before : Bitmap) :
    Firmware.withSecondHalf (secondHalf bitmap)
      (Firmware.withFirstHalf (firstHalf bitmap) before) = bitmap := by
  apply Bytes.ext
  change ((firstHalf bitmap).toList ++ before.toList.drop halfWidth).take halfWidth ++
    bitmap.toList.drop halfWidth = bitmap.toList
  rw [List.take_left' (firstHalf bitmap).length_toList]
  exact List.take_append_drop halfWidth bitmap.toList

/-- A half has a frame. -/
theorem toFrame?_half (half : Bytes halfWidth) :
    (∃ f, Command.toFrame? (.firstHalf half.toList) = .ok f) ∧
      ∃ f, Command.toFrame? (.secondHalf half.toList) = .ok f := by
  have fits : half.toList.length ≤ maxPayload := by
    rw [half.length_toList]
    decide
  exact ⟨⟨⟨_, half.toList, fits⟩, Command.toFrame?_eq_ok_iff.mpr ⟨rfl, rfl⟩⟩,
    ⟨⟨_, half.toList, fits⟩, Command.toFrame?_eq_ok_iff.mpr ⟨rfl, rfl⟩⟩⟩

theorem wholeBitmap_toList (bitmap : Bitmap) : wholeBitmap bitmap.toList = .ok bitmap := by
  rw [wholeBitmap, Bytes.ofList?_eq_some_iff.mpr rfl]

/-- The front becomes the bitmap if the panel is responsive. If it is not, the call ends with the
first half, and the front stays. -/
theorem showHalves_line (h : l.InStep) (bitmap : Bitmap) :
    ∃ l' : PanelLine, l'.InStep ∧
      l'.panel = (if l.panel.responsive then
        { l.panel with front := bitmap, back := l.panel.front, flipCount := l.panel.flipCount + 1 }
        else { l.panel with back := Firmware.withFirstHalf (firstHalf bitmap) l.panel.back }) ∧
      showHalves bitmap.toList (⟨l⟩ : ChannelLink PanelLine) =
        (if l.panel.responsive then .ok ()
          else .error (.exchange (.timeout Opcode.firstHalf.toByte)), ⟨l'⟩) := by
  obtain ⟨f₁, hf₁⟩ := (toFrame?_half (firstHalf bitmap)).1
  obtain ⟨f₂, hf₂⟩ := (toFrame?_half (secondHalf bitmap)).2
  obtain ⟨l₁, h₁, hp₁, ht₁⟩ := tell_line h hf₁
    (p := { l.panel with back := Firmware.withFirstHalf (firstHalf bitmap) l.panel.back })
    (by rw [Firmware.execute, Bytes.ofList?_eq_some_iff.mpr rfl]; rfl)
  have hwhole : (wholeBitmap bitmap.toList : Attempt (ChannelLink PanelLine) LinkError _) ⟨l⟩ =
      (.ok bitmap, ⟨l⟩) := by rw [Attempt.lift_apply, wholeBitmap_toList]
  rw [showHalves, Attempt.bind_of_ok hwhole]
  cases hr : l.panel.responsive with
  | false =>
    rw [hr] at ht₁
    exact ⟨l₁, h₁, hp₁, Attempt.bind_of_error ht₁⟩
  | true =>
    rw [hr, if_pos rfl] at ht₁
    have hr₁ : l₁.panel.responsive = true := by rw [hp₁]; exact hr
    obtain ⟨l₂, h₂, hp₂, ht₂⟩ := tell_line h₁ hf₂
      (p := { l₁.panel with back := Firmware.withSecondHalf (secondHalf bitmap) l₁.panel.back })
      (by rw [Firmware.execute, Bytes.ofList?_eq_some_iff.mpr rfl]; rfl)
    rw [hr₁, if_pos rfl] at ht₂
    have hr₂ : l₂.panel.responsive = true := by rw [hp₂]; exact hr₁
    obtain ⟨l₃, h₃, hp₃, ht₃⟩ := tell_line h₂ (c := .flip) (Frame.new?_self ⟨_, .empty⟩) rfl
    rw [hr₂, if_pos rfl] at ht₃
    refine ⟨l₃, h₃, ?_, ?_⟩
    · rw [hp₃, hp₂, hp₁, if_pos rfl]
      simp only [withSecondHalf_withFirstHalf]
    · exact (Attempt.bind_of_ok ht₁).trans ((Attempt.bind_of_ok ht₂).trans ht₃)

end Link

end Marquee
