import Marquee.Proofs.Link.Tapped
import Marquee.Proofs.Wire.Commands
import Marquee.Proofs.Wire.Reading

/-!
# The command language

Both ends agree on what is a command. The host has a frame for a command exactly if its data fits
(`toFrame?_isOk_iff`), and the panel reads the bytes that a link sends for it as this command. The
panel refuses a frame for an opcode byte that names no command, or for a payload of a wrong shape,
and for nothing else (`ofFrame?_eq_unknown_iff`, `ofFrame?_eq_invalid_iff`). It is more lenient than
the host: some loose frames carry commands for which the host has another frame
(`exists_toFrame?`). `command_language` puts it all together.
-/

namespace Marquee

/-! ## Opcodes -/

namespace Opcode

/-- No two opcodes share a byte. -/
theorem toByte_injective : Function.Injective toByte := by
  intro a b h
  have hb := ofByte?_toByte b
  rw [← h, ofByte?_toByte] at hb
  exact Except.ok.inj hb

/-- A byte names the opcode that it is the byte of. -/
theorem ofByte?_eq_ok_iff {byte : UInt8} {o : Opcode} : ofByte? byte = .ok o ↔ byte = o.toByte := by
  constructor
  · intro h
    unfold ofByte? at h
    cases hfind : all.find? fun o => o.toByte == byte with
    | none =>
      rw [hfind] at h
      cases h
    | some found =>
      rw [hfind] at h
      obtain rfl := Except.ok.inj h
      have hbyte := List.find?_some hfind
      exact (eq_of_beq hbyte).symm
  · rintro rfl
    exact ofByte?_toByte o

/-- A byte that names no opcode is reported as it is. -/
theorem eq_unknown_of_ofByte? {byte : UInt8} {e : FrameError} (h : ofByte? byte = .error e) :
    e = .unknownOpcode byte := by
  unfold ofByte? at h
  split at h
  · cases h
  · exact (Except.error.inj h).symm

/-- A byte that is not one of the nine names nothing. -/
theorem ofByte?_eq_error_iff {byte : UInt8} {e : FrameError} :
    ofByte? byte = .error e ↔ e = .unknownOpcode byte ∧ ∀ o : Opcode, o.toByte ≠ byte := by
  constructor
  · intro h
    refine ⟨eq_unknown_of_ofByte? h, fun o ho => ?_⟩
    rw [ofByte?_eq_ok_iff.mpr ho.symm] at h
    cases h
  · rintro ⟨rfl, hnone⟩
    cases h : ofByte? byte with
    | ok o => exact absurd (ofByte?_eq_ok_iff.mp h).symm (hnone o)
    | error e => rw [eq_unknown_of_ofByte? h]

end Opcode

/-! ## Shapes -/

/-- The data of the command fits a frame, coordinates included. -/
def Command.Fits : Command → Prop
  | .text _ _ bytes => bytes.length ≤ 253
  | .bitmap bytes | .passThrough bytes | .firstHalf bytes | .secondHalf bytes => bytes.length ≤ 255
  | .storeId _ | .askId | .relay _ | .flip => True

/-- The payload does not have the shape that the opcode asks for. -/
def Frame.Misshapen (f : Frame) : Prop :=
  f.opcode = Opcode.text.toByte ∧ f.payload.toList.length < 2 ∨
    (f.opcode = Opcode.storeId.toByte ∨ f.opcode = Opcode.relay.toByte) ∧
      f.payload.toList.length ≠ 1

/-- A frame of a command in another form than the host's: a switch of the relay by a byte that is
neither 0 nor 1, or a payload for a command that has none. -/
def Frame.Loose (f : Frame) : Prop :=
  f.opcode = Opcode.relay.toByte ∧
      (∃ state, f.payload.toList = [state] ∧ state ≠ 0 ∧ state ≠ 1) ∨
    (f.opcode = Opcode.askId.toByte ∨ f.opcode = Opcode.flip.toByte) ∧ f.payload.toList ≠ []

namespace Command

/-! ## From the host to the panel -/

/-- A command fits if its payload is not too long for a frame. -/
theorem fits_iff (c : Command) : c.Fits ↔ c.payloadBytes.length ≤ maxPayload := by
  cases c with
  | text x y bytes =>
    -- The two coordinates take two of the bytes.
    simp only [payloadBytes, Fits, maxPayload, List.length_cons]
    omega
  | _ => simp [payloadBytes, Fits, maxPayload]

/-- The host has a frame for a command exactly if the command fits. -/
theorem toFrame?_isOk_iff (c : Command) : (∃ f, c.toFrame? = .ok f) ↔ c.Fits := by
  rw [fits_iff]
  constructor
  · rintro ⟨f, h⟩
    rw [← (toFrame?_eq_ok_iff.mp h).2]
    exact f.payload.length_le
  · intro fits
    exact ⟨⟨c.opcode.toByte, ⟨c.payloadBytes, fits⟩⟩, toFrame?_eq_ok_iff.mpr ⟨rfl, rfl⟩⟩

/-! ## From the panel to the host -/

theorem ofFrame?_of_opcode {f : Frame} {o : Opcode} (h : f.opcode = o.toByte) :
    ofFrame? f = ofPayload? o f.payload.toList := by
  rw [ofFrame?, h, Opcode.ofByte?_toByte]

/-- A payload is only read as a command with the opcode it came with. -/
theorem opcode_of_ofPayload? {o : Opcode} {bytes : List UInt8} {c : Command}
    (h : ofPayload? o bytes = .ok c) : c.opcode = o := by
  unfold ofPayload? at h
  split at h <;> cases h <;> rfl

/-- The host's payload for a command is no longer than the one that was read. -/
theorem length_payloadBytes_le {o : Opcode} {bytes : List UInt8} {c : Command}
    (h : ofPayload? o bytes = .ok c) : c.payloadBytes.length ≤ bytes.length := by
  unfold ofPayload? at h
  split at h <;> cases h <;> simp [payloadBytes]

/-- A switch of the relay is one byte. -/
theorem exists_of_ofPayload?_relay {bytes : List UInt8} {c : Command}
    (h : ofPayload? .relay bytes = .ok c) : ∃ state, bytes = [state] ∧ c = .relay (state != 0) := by
  rcases bytes with _ | ⟨state, _ | ⟨next, rest⟩⟩
  · cases h
  · cases h
    exact ⟨state, rfl, rfl⟩
  · cases h

section OfPayload

variable {f : Frame} {o : Opcode} (ho : f.opcode = o.toByte)

include ho

/-- The panel takes every payload but those of a wrong shape. -/
theorem ofPayload?_eq_error_iff {e : FrameError} :
    ofPayload? o f.payload.toList = .error e ↔ e = .invalidFrame ∧ f.Misshapen := by
  unfold Frame.Misshapen
  rw [ho]
  rcases f.payload.toList with _ | ⟨x, _ | ⟨y, bytes⟩⟩ <;>
    cases o <;> simp [ofPayload?, Opcode.toByte, eq_comm]

/-- The host writes the payload of a command as it was read, unless the frame is a loose one. -/
theorem payloadBytes_eq_iff {c : Command} (h : ofPayload? o f.payload.toList = .ok c) :
    c.payloadBytes = f.payload.toList ↔ ¬ f.Loose := by
  unfold Frame.Loose
  rw [ho]
  generalize f.payload.toList = payload at h
  cases o with
  | relay =>
    -- The host writes zero or one, and the panel takes any byte.
    obtain ⟨state, rfl, rfl⟩ := exists_of_ofPayload?_relay h
    by_cases hzero : state = 0
    · simp [payloadBytes, Opcode.toByte, hzero]
    · have hone : [1] = [state] ↔ state = 1 := by rw [List.singleton_inj, eq_comm]
      simp [payloadBytes, Opcode.toByte, hzero, hone]
  | text =>
    rcases payload with _ | ⟨x, _ | ⟨y, bytes⟩⟩
    · cases h
    · cases h
    · cases h
      simp [payloadBytes, Opcode.toByte]
  | storeId =>
    rcases payload with _ | ⟨id, _ | ⟨more, rest⟩⟩
    · cases h
    · cases h
      simp [payloadBytes, Opcode.toByte]
    · cases h
  | bitmap | passThrough | firstHalf | secondHalf =>
    cases h
    simp [payloadBytes, Opcode.toByte]
  | askId | flip =>
    cases h
    simp [payloadBytes, Opcode.toByte, eq_comm]

end OfPayload

/-- A frame carries a command if its opcode is known and takes the payload. -/
theorem ofFrame?_eq_ok_iff {f : Frame} {c : Command} :
    ofFrame? f = .ok c ↔
      ∃ o : Opcode, f.opcode = o.toByte ∧ ofPayload? o f.payload.toList = .ok c := by
  constructor
  · intro h
    unfold ofFrame? at h
    split at h
    · cases h
    · exact ⟨_, Opcode.ofByte?_eq_ok_iff.mp ‹_›, h⟩
  · rintro ⟨o, ho, h⟩
    rw [ofFrame?_of_opcode ho, h]

/-- A frame with a byte that names no opcode is refused with that byte. -/
theorem ofFrame?_eq_unknown_iff {f : Frame} {byte : UInt8} :
    ofFrame? f = .error (.unknownOpcode byte) ↔
      byte = f.opcode ∧ ∀ o : Opcode, o.toByte ≠ f.opcode := by
  cases h : Opcode.ofByte? f.opcode with
  | error e =>
    obtain ⟨rfl, hnone⟩ := Opcode.ofByte?_eq_error_iff.mp h
    rw [ofFrame?, h]
    simp [hnone, eq_comm]
  | ok o =>
    have ho := Opcode.ofByte?_eq_ok_iff.mp h
    constructor
    · intro hf
      rw [ofFrame?_of_opcode ho] at hf
      cases ((ofPayload?_eq_error_iff ho).mp hf).1
    · rintro ⟨-, hnone⟩
      exact absurd ho.symm (hnone o)

/-- A frame with a known opcode is refused exactly for the shape of its payload. -/
theorem ofFrame?_eq_invalid_iff {f : Frame} : ofFrame? f = .error .invalidFrame ↔ f.Misshapen := by
  cases h : Opcode.ofByte? f.opcode with
  | error e =>
    obtain ⟨rfl, hnone⟩ := Opcode.ofByte?_eq_error_iff.mp h
    constructor
    · intro hf
      rw [ofFrame?, h] at hf
      cases hf
    · rintro (⟨htext, -⟩ | ⟨hstore | hrelay, -⟩)
      · exact absurd htext.symm (hnone .text)
      · exact absurd hstore.symm (hnone .storeId)
      · exact absurd hrelay.symm (hnone .relay)
  | ok o =>
    have ho := Opcode.ofByte?_eq_ok_iff.mp h
    rw [ofFrame?_of_opcode ho, ofPayload?_eq_error_iff ho]
    exact and_iff_right rfl

/-- The host has a frame for every command that a panel reads, and the panel reads that frame as the
same command. It is the frame that was read, unless that was a loose one. -/
theorem exists_toFrame? {f : Frame} {c : Command} (h : ofFrame? f = .ok c) :
    ∃ f', c.toFrame? = .ok f' ∧ ofFrame? f' = .ok c ∧ (f' = f ↔ ¬ f.Loose) := by
  obtain ⟨o, ho, hpayload⟩ := ofFrame?_eq_ok_iff.mp h
  have hopcode := opcode_of_ofPayload? hpayload
  have fits : c.payloadBytes.length ≤ maxPayload :=
    Nat.le_trans (length_payloadBytes_le hpayload) f.payload.length_le
  have hframe : c.toFrame? = .ok ⟨c.opcode.toByte, ⟨c.payloadBytes, fits⟩⟩ :=
    toFrame?_eq_ok_iff.mpr ⟨rfl, rfl⟩
  refine ⟨_, hframe, ofFrame?_toFrame? hframe, ?_⟩
  rw [← payloadBytes_eq_iff ho hpayload]
  constructor
  · rintro rfl
    rfl
  · intro hsame
    exact Frame.ext ((congrArg Opcode.toByte hopcode).trans ho.symm) (Payload.ext hsame)

end Command

/-! ## Both ends -/

/-- A command that a link sends is on the wire as its frame, and as nothing else. -/
theorem Tapped.send_sent {σ : Type} [Channel σ] {c : Command} {f : Frame} {t : Tapped σ}
    (hf : c.toFrame? = .ok f) (accepted : (Channel.write f.encode t).1 = .ok ()) :
    (Link.send c (⟨t⟩ : ChannelLink (Tapped σ))).2.channel.sent = t.sent ++ f.encode := by
  obtain ⟨hopcode, -⟩ := Command.toFrame?_eq_ok_iff.mp hf
  have hnew : Frame.new? c.opcode.toByte f.payload.toList = .ok f :=
    Frame.new?_eq_ok_iff.mpr ⟨hopcode, rfl⟩
  have hframe : Link.frameOf c = .ok f := by rw [Link.frameOf, hf]
  rw [Link.send, hframe]
  exact exchange_sent hnew accepted

/-- The two ends agree on the command language. The host has a frame for a command if and only if
its data fits, and the bytes that any link sends for it are read as this one frame and this very
command. For every frame that a panel reads as a command the host has a frame for this command; it
is the same frame, unless that was a loose one. The panel refuses exactly the opcode bytes that
name no command and the payloads of a wrong shape. -/
theorem command_language :
    (∀ c : Command, ((∃ f, c.toFrame? = .ok f) ↔ c.Fits) ∧
        ∀ f, c.toFrame? = .ok f → ∀ (σ : Type) [Channel σ] (t : Tapped σ),
          (Channel.write f.encode t).1 = .ok () →
            ∃ bytes, (Link.send c (⟨t⟩ : ChannelLink (Tapped σ))).2.channel.sent =
                t.sent ++ bytes ∧
              FrameReader.takeAll bytes .idle = ([f], .idle) ∧ Command.ofFrame? f = .ok c) ∧
      (∀ (f : Frame) (c : Command), Command.ofFrame? f = .ok c →
        ∃ f', c.toFrame? = .ok f' ∧ Command.ofFrame? f' = .ok c ∧ (f' = f ↔ ¬ f.Loose)) ∧
      (∀ (f : Frame) (byte : UInt8), Command.ofFrame? f = .error (.unknownOpcode byte) ↔
        byte = f.opcode ∧ ∀ o : Opcode, o.toByte ≠ f.opcode) ∧
      ∀ f : Frame, Command.ofFrame? f = .error .invalidFrame ↔ f.Misshapen := by
  refine ⟨fun c => ⟨c.toFrame?_isOk_iff, fun f hf σ _ t accepted => ?_⟩,
    fun f c h => Command.exists_toFrame? h, fun f byte => Command.ofFrame?_eq_unknown_iff,
    fun f => Command.ofFrame?_eq_invalid_iff⟩
  exact ⟨f.encode, Tapped.send_sent hf accepted, FrameReader.takeAll_encode f,
    Command.ofFrame?_toFrame? hf⟩

end Marquee
