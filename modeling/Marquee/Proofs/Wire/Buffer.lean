import Marquee.Proofs.Wire.Commands
import Marquee.Wire.Buffer

/-!
# A frame in a buffer

Measuring the buffer once is enough: no later step reaches over its end, and what the steps leave
behind is what `Frame.encodeInto` says (`Frame.encodeBy_eq`). A buffer with room for the longest
frame has room for every frame, so a frame always comes out of a buffer of its own
(`Frame.encodeAlone_eq`). Both ways of writing a frame give the same bytes (`encoding_exact`).
-/

namespace Marquee

namespace Frame

variable {f : Frame} {buffer : List UInt8}

theorem encodeInto_of_le (room : f.size ≤ buffer.length) :
    f.encodeInto buffer = (.ok f.size, f.encode ++ buffer.drop f.size) :=
  if_neg (Nat.not_lt.mpr room)

theorem encodeInto_of_lt (small : buffer.length < f.size) :
    f.encodeInto buffer = (.error .bufferTooSmall, buffer) := if_pos small

theorem size_le_maxFrame (f : Frame) : f.size ≤ maxFrame :=
  Nat.add_le_add_left f.payload.length_le 2

/-- The steps of writing a frame never reach over the end of the buffer. -/
theorem encodeBy_eq (f : Frame) (buffer : List UInt8) :
    f.encodeBy buffer = some (f.encodeInto buffer) := by
  rcases Nat.lt_or_ge buffer.length f.size with small | room
  · rw [encodeInto_of_lt small, encodeBy, if_pos small]
  · have hrange : f.size - 2 = f.payload.toList.length := Nat.add_sub_cancel_left ..
    -- A buffer with room for the frame has its two first bytes, which the first steps replace.
    obtain ⟨a, b, rest, rfl⟩ : ∃ a b rest, buffer = a :: b :: rest := by
      have htwo : 2 ≤ buffer.length := Nat.le_trans (Nat.le_add_right ..) room
      rcases buffer with _ | ⟨a, _ | ⟨b, rest⟩⟩
      · exact absurd htwo (by decide)
      · exact absurd htwo (by simp)
      · exact ⟨a, b, rest, rfl⟩
    have hcopy : Buffer.copy? 2 f.size f.payload.toList
        (f.opcode :: f.payload.lengthByte :: rest) =
          some (f.encode ++ (a :: b :: rest).drop f.size) := by
      rw [Buffer.copy?, if_pos ⟨Nat.le_add_right .., room, hrange⟩, size, Nat.add_comm 2]
      rfl
    rw [encodeInto_of_le room, encodeBy, if_neg (Nat.not_lt.mpr room)]
    change (Buffer.copy? 2 f.size f.payload.toList
      (f.opcode :: f.payload.lengthByte :: rest)).bind _ = _
    rw [hcopy]
    rfl

/-- A buffer of its own has room for every frame. -/
theorem encodeAlone_eq (f : Frame) : f.encodeAlone = some (.ok f.encode) := by
  have room : f.size ≤ (List.replicate maxFrame (0 : UInt8)).length := by
    rw [List.length_replicate]
    exact f.size_le_maxFrame
  have hfront : Buffer.front? f.size (f.encode ++ (List.replicate maxFrame 0).drop f.size) =
      some f.encode := by
    rw [Buffer.front?, if_pos (by simp), ← f.length_encode, List.take_left]
  have hfits : f.encode.length ≤ maxFrame := f.length_encode ▸ f.size_le_maxFrame
  rw [encodeAlone, encodeBy_eq, encodeInto_of_le room]
  change (Buffer.front? f.size _).bind _ = _
  rw [hfront]
  change some (if f.encode.length ≤ maxFrame then _ else _) = _
  rw [if_pos hfits]

end Frame

/-- An opcode byte and a payload make a frame exactly if the payload has at most 255 bytes. Writing
that frame to a buffer never reaches over the end of the buffer. It succeeds exactly if the buffer
has room for the payload and two bytes more, and tells how many these are: the front of the buffer
is then the opcode, the length of the payload, which has not wrapped, and the payload, and every
later byte is what it was. In a smaller buffer nothing is changed. The frame written to a buffer of
its own gives the same bytes, and never fails; they are the bytes that are sent. -/
theorem encoding_exact (opcode : UInt8) (payload buffer : List UInt8) :
    ((∃ f, Frame.new? opcode payload = .ok f) ↔ payload.length ≤ 255) ∧
    (255 < payload.length → Frame.new? opcode payload = .error .payloadTooLarge) ∧
    ∀ f, Frame.new? opcode payload = .ok f → ∃ length : UInt8, length.toNat = payload.length ∧
      (2 + payload.length ≤ buffer.length → ∃ after : List UInt8,
        f.encodeBy buffer = some (.ok (2 + payload.length), after) ∧
        after = opcode :: length :: payload ++ buffer.drop (2 + payload.length) ∧
        after.length = buffer.length ∧
        ∀ i, 2 + payload.length ≤ i → after[i]? = buffer[i]?) ∧
      (buffer.length < 2 + payload.length →
        f.encodeBy buffer = some (.error .bufferTooSmall, buffer)) ∧
      f.encodeAlone = some (.ok (opcode :: length :: payload)) ∧
      f.encodeBy buffer = some (f.encodeInto buffer) ∧ f.encodeAlone = some (.ok f.encode) := by
  refine ⟨⟨?_, fun fits => ?_⟩, fun large => ?_, fun f hf => ?_⟩
  · rintro ⟨f, hf⟩
    obtain ⟨-, rfl⟩ := Frame.new?_eq_ok_iff.mp hf
    exact f.payload.length_le
  · exact ⟨⟨opcode, payload, fits⟩, Frame.new?_eq_ok_iff.mpr ⟨rfl, rfl⟩⟩
  · rw [Frame.new?, Payload.ofList?_of_lt large]
    rfl
  · obtain ⟨rfl, rfl⟩ := Frame.new?_eq_ok_iff.mp hf
    refine ⟨f.payload.lengthByte, f.payload.toNat_lengthByte, fun room => ?_, fun small => ?_,
      f.encodeAlone_eq, f.encodeBy_eq buffer, f.encodeAlone_eq⟩
    · refine ⟨f.encode ++ buffer.drop f.size, ?_, rfl, ?_, fun i hi => ?_⟩
      · rw [Frame.encodeBy_eq, Frame.encodeInto_of_le room]
        rfl
      · rw [List.length_append, List.length_drop, f.length_encode]
        exact Nat.add_sub_cancel' room
      · have hlater : f.encode.length ≤ i := f.length_encode.symm ▸ hi
        rw [List.getElem?_append_right hlater, List.getElem?_drop, f.length_encode]
        exact congrArg _ (Nat.add_sub_cancel' hi)
    · rw [Frame.encodeBy_eq, Frame.encodeInto_of_lt small]

end Marquee
