import Marquee.Proofs.Link.Unsteady
import Marquee.Proofs.Wire.Language

/-!
# What a frame does to a panel

A panel checks a frame at two places: the shape of the payload when the frame is read as a command,
and the size of a bitmap when the command is executed. Together they refuse exactly the frames of an
unknown opcode or with a payload of a length that the opcode does not take (`Frame.refusable_iff`).
A refused frame leaves the panel as it was, and so refused frames leave no trace in a series
(`Firmware.handle_filter`). Any other frame is answered with success, and changes what its
opcode names and nothing else (`Firmware.answer_of_takes`).
-/

namespace Marquee

/-! ## Refused frames -/

theorem Response.refused_status_ne : Response.refused.status ≠ 0 := by decide

/-- The opcode takes payloads of this length. -/
def Opcode.Takes : Opcode → Nat → Prop
  | .text, n => 2 ≤ n
  | .storeId, n | .relay, n => n = 1
  | .bitmap, n => n = panelWidth
  | .firstHalf, n | .secondHalf, n => n = halfWidth
  | .askId, _ | .passThrough, _ | .flip, _ => True

instance (o : Opcode) (n : Nat) : Decidable (o.Takes n) := by
  cases o <;> unfold Opcode.Takes <;> infer_instance

namespace Frame

/-- A panel refuses the frame: no command has its opcode, or the payload has a length that the
command does not take. -/
def Refusable (f : Frame) : Prop :=
  (∀ o : Opcode, o.toByte ≠ f.opcode) ∨
    f.opcode = Opcode.text.toByte ∧ f.payload.toList.length < 2 ∨
    (f.opcode = Opcode.storeId.toByte ∨ f.opcode = Opcode.relay.toByte) ∧
      f.payload.toList.length ≠ 1 ∨
    f.opcode = Opcode.bitmap.toByte ∧ f.payload.toList.length ≠ 120 ∨
    (f.opcode = Opcode.firstHalf.toByte ∨ f.opcode = Opcode.secondHalf.toByte) ∧
      f.payload.toList.length ≠ 60

variable {f : Frame} {o : Opcode}

theorem refusable_of_unknown (h : ∀ o : Opcode, o.toByte ≠ f.opcode) : f.Refusable := .inl h

/-- A frame of a known opcode is refused for the length of its payload. -/
theorem refusable_iff (ho : f.opcode = o.toByte) :
    f.Refusable ↔ ¬ o.Takes f.payload.toList.length := by
  have known : ¬ ∀ other : Opcode, other.toByte ≠ f.opcode := fun h => h o ho.symm
  unfold Refusable
  rw [or_iff_right known, ho]
  cases o <;> simp [Opcode.toByte, Opcode.Takes, panelWidth, halfWidth]

instance (f : Frame) : Decidable f.Refusable :=
  match h : Opcode.ofByte? f.opcode with
  | .ok _ => decidable_of_iff _ (refusable_iff (Opcode.ofByte?_eq_ok_iff.mp h)).symm
  | .error _ => .isTrue (refusable_of_unknown (Opcode.ofByte?_eq_error_iff.mp h).2)

end Frame

/-! ## What is changed -/

namespace Firmware

/-- The second panel is the first one with a change to what the opcode names, made by the payload,
and to nothing else. -/
def Changed (o : Opcode) (payload : List UInt8) (p p' : Firmware) : Prop :=
  match o with
  | .text => p' = { p with text := some (Text.ofUtf8Lossy (payload.drop 2)) }
  | .bitmap => ∃ front : Bitmap, front.toList = payload ∧ p' = { p with front := front }
  | .storeId => ∃ id, payload = [id] ∧ p' = { p with id := id }
  | .askId => p' = p
  | .passThrough => p' = { p with auxiliary := p.auxiliary ++ payload }
  | .relay => ∃ state, payload = [state] ∧ p' = { p with relay := state != 0 }
  | .flip => p' = { p with front := p.back, back := p.front, flipCount := p.flipCount + 1 }
  | .firstHalf => ∃ back : Bitmap,
      back.toList = payload ++ p.back.toList.drop 60 ∧ p' = { p with back := back }
  | .secondHalf => ∃ back : Bitmap,
      back.toList = p.back.toList.take 60 ++ payload ∧ p' = { p with back := back }

variable {p : Firmware} {f : Frame} {o : Opcode}

theorem answer_of_unknown (h : ∀ o : Opcode, o.toByte ≠ f.opcode) : p.answer f = (.refused, p) := by
  rw [answer, Command.ofFrame?_eq_unknown_iff.mpr ⟨rfl, h⟩]

theorem answer_of_opcode (ho : f.opcode = o.toByte) :
    p.answer f = match Command.ofPayload? o f.payload.toList with
      | .error _ => (.refused, p)
      | .ok command => (p.execute command).getD (.refused, p) := by
  have hread := Command.ofFrame?_of_opcode ho
  cases hpayload : Command.ofPayload? o f.payload.toList <;> rw [answer, hread, hpayload]

/-- A payload of a length that the opcode does not take is refused, by one check or the other. -/
theorem answer_of_not_takes (ho : f.opcode = o.toByte) (h : ¬ o.Takes f.payload.toList.length) :
    p.answer f = (.refused, p) := by
  rw [answer_of_opcode ho]
  generalize f.payload.toList = payload at h
  cases o with
  | askId | passThrough | flip => exact absurd trivial h
  | text | storeId | relay =>
    rcases payload with _ | ⟨x, _ | ⟨y, bytes⟩⟩ <;> simp [Opcode.Takes, Command.ofPayload?] at h ⊢
  | bitmap | firstHalf | secondHalf =>
    simp only [Command.ofPayload?, execute, Bytes.ofList?_eq_none_iff.mpr h]
    rfl

/-- A payload of a length that the opcode takes is no reason to refuse: the answer is a success, and
the command is carried out. -/
theorem answer_of_takes (ho : f.opcode = o.toByte) (h : o.Takes f.payload.toList.length) :
    (p.answer f).1.status = 0 ∧
      (p.answer f).1.payload.toList = (if o = .askId then [p.id] else []) ∧
      p.Changed o f.payload.toList (p.answer f).2 := by
  rw [answer_of_opcode ho]
  generalize f.payload.toList = payload at h
  cases o with
  | text =>
    obtain ⟨x, y, bytes, rfl⟩ : ∃ x y bytes, payload = x :: y :: bytes := by
      rcases payload with _ | ⟨x, _ | ⟨y, bytes⟩⟩
      · exact absurd h (Nat.not_le.mpr Nat.two_pos)
      · exact absurd h (Nat.not_le.mpr Nat.one_lt_two)
      · exact ⟨x, y, bytes, rfl⟩
    exact ⟨rfl, rfl, rfl⟩
  | storeId | relay =>
    obtain ⟨byte, rfl⟩ := List.length_eq_one_iff.mp h
    exact ⟨rfl, rfl, byte, rfl, rfl⟩
  | askId | passThrough | flip => exact ⟨rfl, rfl, rfl⟩
  | bitmap =>
    have hblock : Bytes.ofList? panelWidth payload = some ⟨payload, h⟩ :=
      Bytes.ofList?_eq_some_iff.mpr rfl
    simp only [Command.ofPayload?, execute, hblock]
    exact ⟨rfl, rfl, ⟨payload, h⟩, rfl, rfl⟩
  | firstHalf | secondHalf =>
    have hblock : Bytes.ofList? halfWidth payload = some ⟨payload, h⟩ :=
      Bytes.ofList?_eq_some_iff.mpr rfl
    simp only [Command.ofPayload?, execute, hblock]
    exact ⟨rfl, rfl, _, rfl, rfl⟩

theorem answer_of_refusable (h : f.Refusable) : p.answer f = (.refused, p) := by
  by_cases known : ∃ o : Opcode, f.opcode = o.toByte
  · obtain ⟨o, ho⟩ := known
    exact answer_of_not_takes ho ((Frame.refusable_iff ho).mp h)
  · exact answer_of_unknown fun o ho => known ⟨o, ho.symm⟩

/-- A frame that is not refused has a known opcode, which takes its payload. -/
theorem exists_takes_of_not_refusable (h : ¬ f.Refusable) :
    ∃ o : Opcode, f.opcode = o.toByte ∧ o.Takes f.payload.toList.length := by
  cases hbyte : Opcode.ofByte? f.opcode with
  | error e => exact absurd (Frame.refusable_of_unknown (Opcode.ofByte?_eq_error_iff.mp hbyte).2) h
  | ok o =>
    have ho := Opcode.ofByte?_eq_ok_iff.mp hbyte
    exact ⟨o, ho, Decidable.not_not.mp fun hn => h ((Frame.refusable_iff ho).mpr hn)⟩

/-- In a series of frames those that are refused may be left out. -/
theorem handle_filter (p : Firmware) (frames : List Frame) :
    p.handle (frames.filter fun f => ¬ f.Refusable) = p.handle frames := by
  induction frames generalizing p with
  | nil => rfl
  | cons f rest ih =>
    have hcons : p.handle (f :: rest) = (p.answer f).2.handle rest := rfl
    by_cases h : f.Refusable
    · have hpanel : (p.answer f).2 = p := congrArg Prod.snd (answer_of_refusable h)
      rw [List.filter_cons_of_neg (by simpa using h), hcons, hpanel]
      exact ih p
    · rw [List.filter_cons_of_pos (by simpa using h), hcons]
      exact ih (p.answer f).2

end Firmware

/-- What a frame comes to on a panel, whatever its opcode byte, its payload and the state of the
panel are. The status of the answer is not zero exactly for an unknown opcode, a text without both
coordinates, an identity or a relay state that is not one byte, a bitmap that is not 120 bytes and a
half that is not 60 bytes. Then nothing of the panel is changed, and in a series such frames may be
left out. Otherwise the status is zero, the payload of the answer is the identity if it was asked
for and empty if not, and exactly what the command names is changed: the text, the front, the
identity, the auxiliary output, which has the payload at its end, the relay, the two sides and the
number of exchanges, or one half of the hidden side. -/
theorem frame_handled (p : Firmware) (f : Frame) :
    ((p.answer f).1.status ≠ 0 ↔ f.Refusable) ∧
      (f.Refusable → (p.answer f).2 = p) ∧
      (¬ f.Refusable → ∃ o : Opcode, f.opcode = o.toByte ∧ (p.answer f).1.status = 0 ∧
        (p.answer f).1.payload.toList = (if o = .askId then [p.id] else []) ∧
        p.Changed o f.payload.toList (p.answer f).2) ∧
      ∀ frames : List Frame, p.handle (frames.filter fun f => ¬ f.Refusable) = p.handle frames := by
  refine ⟨⟨fun hstatus => ?_, fun h => ?_⟩, fun h => ?_, fun h => ?_, p.handle_filter⟩
  · refine Decidable.byContradiction fun h => ?_
    obtain ⟨o, ho, htakes⟩ := Firmware.exists_takes_of_not_refusable h
    exact hstatus (Firmware.answer_of_takes ho htakes).1
  · rw [Firmware.answer_of_refusable h]
    exact Response.refused_status_ne
  · rw [Firmware.answer_of_refusable h]
  · obtain ⟨o, ho, htakes⟩ := Firmware.exists_takes_of_not_refusable h
    exact ⟨o, ho, Firmware.answer_of_takes ho htakes⟩

end Marquee
