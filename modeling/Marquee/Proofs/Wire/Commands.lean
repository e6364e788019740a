import Marquee.Panel.Firmware

/-!
# Both ends agree on commands

The payload that the host writes for a command is read back as that command by the panel
(`ofPayload?_payloadBytes`), and so is the frame (`ofFrame?_toFrame?`). What a panel does with the
frame of a command is therefore what it does with the command (`Firmware.answer_toFrame?`).
-/

namespace Marquee

namespace Frame

/-- A frame is refused only for its size. -/
theorem new?_eq_ok_iff {opcode : UInt8} {bytes : List UInt8} {f : Frame} :
    new? opcode bytes = .ok f ↔ f.opcode = opcode ∧ f.payload.toList = bytes := by
  rw [new?]
  rcases Nat.lt_or_ge maxPayload bytes.length with large | fits
  · rw [Payload.ofList?_of_lt large]
    constructor
    · rintro ⟨⟩
    · rintro ⟨-, rfl⟩
      exact absurd f.payload.length_le (by omega)
  · rw [Payload.ofList?_of_le fits]
    constructor
    · rintro ⟨⟩
      exact ⟨rfl, rfl⟩
    · rintro ⟨rfl, rfl⟩
      rfl

/-- The frame with the opcode and the payload of a frame is that frame. -/
theorem new?_self (f : Frame) : new? f.opcode f.payload.toList = .ok f :=
  new?_eq_ok_iff.mpr ⟨rfl, rfl⟩

end Frame

namespace Command

/-- The panel reads back what the host writes. -/
theorem ofPayload?_payloadBytes (c : Command) : ofPayload? c.opcode c.payloadBytes = .ok c := by
  cases c with
  | text x y bytes => simp [opcode, payloadBytes, ofPayload?]
  | relay on => cases on <;> rfl
  | _ => rfl

/-- A command's frame holds its opcode and its payload. -/
theorem toFrame?_eq_ok_iff {c : Command} {f : Frame} :
    c.toFrame? = .ok f ↔ f.opcode = c.opcode.toByte ∧ f.payload.toList = c.payloadBytes :=
  Frame.new?_eq_ok_iff

theorem ofFrame?_toFrame? {c : Command} {f : Frame} (h : c.toFrame? = .ok f) :
    ofFrame? f = .ok c := by
  obtain ⟨hopcode, hpayload⟩ := toFrame?_eq_ok_iff.mp h
  rw [ofFrame?, hopcode, Opcode.ofByte?_toByte, hpayload]
  exact ofPayload?_payloadBytes c

end Command

namespace Firmware

/-- A panel does with the frame of a command what it does with the command. -/
theorem answer_toFrame? (p : Firmware) {c : Command} {f : Frame} (h : c.toFrame? = .ok f) :
    p.answer f = (p.execute c).getD (.refused, p) := by
  rw [answer, Command.ofFrame?_toFrame? h]

/-- No frame makes a panel fall silent or speak up. -/
@[simp] theorem answer_responsive (p : Firmware) (f : Frame) :
    (p.answer f).2.responsive = p.responsive := by
  rw [answer]
  rcases Command.ofFrame? f with e | c
  · rfl
  · cases c with
    | bitmap bytes | firstHalf bytes | secondHalf bytes =>
      simp only [execute]
      rcases Bytes.ofList? _ bytes with _ | block <;> rfl
    | _ => rfl

end Firmware

end Marquee
