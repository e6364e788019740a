import Marquee.Link.Exchange
import Marquee.Proofs.Link.Attempt

/-!
# One exchange, stage by stage

An exchange writes a frame, flushes, reads the two bytes of a header and then the payload that
the header announces. On any channel the first stage that fails decides the outcome
(`exchange_of_write`, `exchange_of_flush`, `exchange_of_header`, `exchange_of_payload`); if none
does, the status decides (`exchange_of_answer`). Once the frame is written nothing else is, so that
what flushes, reads and discards keep, the rest of the exchange keeps (`exchange_written`).
-/

namespace Marquee.ChannelLink

variable {σ : Type}

/-! ## Steps -/

/-- A step that succeeds goes on on the channel as it was left. -/
theorem step_of_ok {α : Type} {opcode : UInt8} {operation : Attempt σ ChannelError α}
    {s s' : σ} {a : α} (h : operation s = (.ok a, s')) :
    step opcode operation ⟨s⟩ = (.ok a, ⟨s'⟩) := by
  simp only [step, h]

/-- A step that fails ends the exchange with an error that names the opcode. -/
theorem step_of_error {α : Type} {opcode : UInt8} {operation : Attempt σ ChannelError α}
    {s s' : σ} {e : ChannelError} (h : operation s = (.error e, s')) :
    step opcode operation ⟨s⟩ = (.error (.exchange (exchangeError opcode e)), ⟨s'⟩) := by
  simp only [step, h]

variable [Channel σ]

theorem readPart_of_ok (opcode : UInt8) {n : Nat} {s s' : σ} {bytes : Bytes n}
    (h : Channel.read n s = (.ok bytes, s')) :
    readPart opcode n ⟨s⟩ = (.ok bytes, ⟨s'⟩) := by
  simp only [readPart, step_of_ok h]

/-- After a timeout the received bytes are dropped. -/
theorem readPart_of_timeout (opcode : UInt8) {n : Nat} {s s' : σ}
    (h : Channel.read n s = (.error .timeout, s')) :
    readPart opcode n ⟨s⟩ =
      (.error (.exchange (.timeout opcode)), ⟨(Channel.discard s').2⟩) := by
  simp only [readPart, step_of_error h, exchangeError]

/-- Any other failure leaves the received bytes where they are. -/
theorem readPart_of_failure (opcode : UInt8) {n : Nat} {s s' : σ} {e : ChannelError}
    (he : e ≠ .timeout) (h : Channel.read n s = (.error e, s')) :
    readPart opcode n ⟨s⟩ = (.error (.exchange (.io opcode)), ⟨s'⟩) := by
  cases e with
  | timeout => exact absurd rfl he
  | disconnected | other => simp only [readPart, step_of_error h, exchangeError]

/-! ## The stages of an exchange -/

section Stages

variable {opcode : Opcode} {payload : List UInt8} {request : Frame} {s s₁ s₂ : σ}

/-- A payload that fits no frame is turned away before the channel is touched. -/
theorem exchange_of_unfit {link : ChannelLink σ} {e : FrameError}
    (hr : Frame.new? opcode.toByte payload = .error e) :
    exchange opcode payload link = (.error (.argument .payloadTooLarge), link) := by
  rw [exchange, hr]
  rfl

/-- If nothing can be handed over, the exchange ends there. -/
theorem exchange_of_write (hr : Frame.new? opcode.toByte payload = .ok request) {e : ChannelError}
    (hw : Channel.write request.encode s = (.error e, s₁)) :
    exchange opcode payload ⟨s⟩ =
      (.error (.exchange (exchangeError opcode.toByte e)), ⟨s₁⟩) := by
  rw [exchange, hr]
  exact Attempt.bind_of_error (step_of_error hw)

/-- If what was handed over cannot be sent, the exchange ends there. -/
theorem exchange_of_flush (hr : Frame.new? opcode.toByte payload = .ok request) {e : ChannelError}
    (hw : Channel.write request.encode s = (.ok (), s₁))
    (hf : Channel.flush s₁ = (.error e, s₂)) :
    exchange opcode payload ⟨s⟩ =
      (.error (.exchange (exchangeError opcode.toByte e)), ⟨s₂⟩) := by
  rw [exchange, hr]
  dsimp only
  rw [Attempt.bind_of_ok (step_of_ok hw)]
  exact Attempt.bind_of_error (step_of_error hf)

/-- Without a header the exchange ends there. -/
theorem exchange_of_header (hr : Frame.new? opcode.toByte payload = .ok request)
    (hw : Channel.write request.encode s = (.ok (), s₁))
    (hf : Channel.flush s₁ = (.ok (), s₂)) {e : LinkError} {s' : ChannelLink σ}
    (hh : readPart opcode.toByte 2 ⟨s₂⟩ = (.error e, s')) :
    exchange opcode payload ⟨s⟩ = (.error e, s') := by
  rw [exchange, hr]
  dsimp only
  rw [Attempt.bind_of_ok (step_of_ok hw), Attempt.bind_of_ok (step_of_ok hf)]
  exact Attempt.bind_of_error hh

/-- Without the payload that the header promises the exchange ends there. -/
theorem exchange_of_payload (hr : Frame.new? opcode.toByte payload = .ok request)
    (hw : Channel.write request.encode s = (.ok (), s₁))
    (hf : Channel.flush s₁ = (.ok (), s₂)) {header : Bytes 2} {s₃ s' : ChannelLink σ}
    (hh : readPart opcode.toByte 2 ⟨s₂⟩ = (.ok header, s₃)) {e : LinkError}
    (hp : readPart opcode.toByte (Header.ofBytes header).length.toNat s₃ = (.error e, s')) :
    exchange opcode payload ⟨s⟩ = (.error e, s') := by
  rw [exchange, hr]
  dsimp only
  rw [Attempt.bind_of_ok (step_of_ok hw), Attempt.bind_of_ok (step_of_ok hf),
    Attempt.bind_of_ok hh]
  exact Attempt.bind_of_error hp

/-- With a complete answer the status decides, and every byte of it has been read. -/
theorem exchange_of_answer (hr : Frame.new? opcode.toByte payload = .ok request)
    (hw : Channel.write request.encode s = (.ok (), s₁))
    (hf : Channel.flush s₁ = (.ok (), s₂)) {header : Bytes 2} {s₃ s' : ChannelLink σ}
    (hh : readPart opcode.toByte 2 ⟨s₂⟩ = (.ok header, s₃))
    {answer : Bytes (Header.ofBytes header).length.toNat}
    (hp : readPart opcode.toByte (Header.ofBytes header).length.toNat s₃ = (.ok answer, s')) :
    exchange opcode payload ⟨s⟩ =
      (if (Header.ofBytes header).isOk then .ok answer.toList
        else .error (.exchange (.status opcode.toByte statusOk (Header.ofBytes header).status)),
        s') := by
  rw [exchange, hr]
  dsimp only
  rw [Attempt.bind_of_ok (step_of_ok hw), Attempt.bind_of_ok (step_of_ok hf),
    Attempt.bind_of_ok hh, Attempt.bind_of_ok hp]
  rcases (Header.ofBytes header).isOk <;> rfl

end Stages

/-! ## After the write -/

section Kept

variable {P : σ → Prop} (flush : ∀ s, P s → P (Channel.flush s).2)
  (read : ∀ n s, P s → P (Channel.read n s).2) (discard : ∀ s, P s → P (Channel.discard s).2)

include read discard in

/-- Reading a part of an answer keeps what reads and discards keep. -/
theorem readPart_keeps (opcode : UInt8) (n : Nat) {s : σ} (h : P s) :
    P (readPart opcode n ⟨s⟩).2.channel := by
  have hread := read n s h
  rcases hresult : Channel.read n s with ⟨e | bytes, s'⟩
  · rw [hresult] at hread
    by_cases he : e = .timeout
    · subst he
      rw [readPart_of_timeout opcode hresult]
      exact discard s' hread
    · rw [readPart_of_failure opcode he hresult]
      exact hread
  · rw [hresult] at hread
    rw [readPart_of_ok opcode hresult]
    exact hread

include flush read discard in
/-- What flushes, reads and discards keep, an exchange keeps from its write on. -/
theorem exchange_written {opcode : Opcode} {payload : List UInt8} {request : Frame} {s s₁ : σ}
    (hr : Frame.new? opcode.toByte payload = .ok request)
    (hw : Channel.write request.encode s = (.ok (), s₁)) (h : P s₁) :
    P (exchange opcode payload ⟨s⟩).2.channel := by
  have hflush := flush s₁ h
  rcases hf : Channel.flush s₁ with ⟨e | _, s₂⟩
  · rw [hf] at hflush
    rw [exchange_of_flush hr hw hf]
    exact hflush
  rw [hf] at hflush
  have hheader := readPart_keeps read discard opcode.toByte 2 hflush
  rcases hh : readPart opcode.toByte 2 ⟨s₂⟩ with ⟨e | header, s₃⟩
  · rw [hh] at hheader
    rw [exchange_of_header hr hw hf hh]
    exact hheader
  rw [hh] at hheader
  have hpayload :=
    readPart_keeps read discard opcode.toByte (Header.ofBytes header).length.toNat hheader
  rcases hp : readPart opcode.toByte (Header.ofBytes header).length.toNat s₃ with ⟨e | answer, s₄⟩
  · rw [hp] at hpayload
    rw [exchange_of_payload hr hw hf hh hp]
    exact hpayload
  · rw [hp] at hpayload
    rw [exchange_of_answer hr hw hf hh hp]
    exact hpayload

end Kept

end Marquee.ChannelLink
