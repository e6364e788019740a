import Marquee.Wire.Reader

/-!
# Reading undoes writing

The reader takes bytes one at a time, so what it makes of a byte run depends only on where it
stands and on the run (`takeAll_append`). From between two frames the bytes of one frame bring
exactly that frame and leave the reader between frames again (`takeAll_encode`).
-/

namespace Marquee.FrameReader

/-! ## One byte -/

theorem take_idle (byte : UInt8) : take byte .idle = (none, .opened byte) := rfl

theorem take_opened_of_pos {opcode byte : UInt8} (h : 0 < byte.toNat) :
    take byte (.opened opcode) = (none, .reading opcode byte [] h) := dif_pos h

theorem take_opened_of_zero {opcode byte : UInt8} (h : byte.toNat = 0) :
    take byte (.opened opcode) = (some (.empty opcode), .idle) := dif_neg (by omega)

/-! ## Byte runs -/

@[simp] theorem takeAll_nil (r : FrameReader) : takeAll [] r = ([], r) := rfl

theorem takeAll_cons (b : UInt8) (rest : List UInt8) (r : FrameReader) :
    takeAll (b :: rest) r =
      ((r.take b).1.toList ++ (takeAll rest (r.take b).2).1, (takeAll rest (r.take b).2).2) := by
  rw [takeAll]
  rcases h : r.take b with ⟨_ | frame, next⟩ <;> simp

/-- A byte run may be cut anywhere. -/
theorem takeAll_append (bytes rest : List UInt8) (r : FrameReader) :
    takeAll (bytes ++ rest) r =
      ((takeAll bytes r).1 ++ (takeAll rest (takeAll bytes r).2).1,
        (takeAll rest (takeAll bytes r).2).2) := by
  induction bytes generalizing r with
  | nil => rfl
  | cons b bytes ih =>
    rw [List.cons_append, takeAll_cons, takeAll_cons, ih]
    simp

/-- Inside a payload the missing bytes complete the frame. -/
theorem takeAll_missing (opcode length : UInt8) (missing received : List UInt8)
    (short : received.length < length.toNat)
    (total : received.length + missing.length = length.toNat)
    (fits : (received ++ missing).length ≤ maxPayload) :
    takeAll missing (.reading opcode length received short) =
      ([⟨opcode, ⟨received ++ missing, fits⟩⟩], .idle) := by
  induction missing generalizing received with
  | nil =>
    rw [List.length_nil] at total
    omega
  | cons b missing ih =>
    rw [List.length_cons] at total
    rw [takeAll_cons]
    rcases Nat.lt_or_ge (received.length + 1) length.toNat with more | last
    · have fits' : (received ++ [b] ++ missing).length ≤ maxPayload := by simpa using fits
      have ih' := ih (received ++ [b]) (by simpa using more) (by simp; omega) fits'
      simp only [take, dif_pos more, Option.toList_none, List.nil_append, ih']
      simp
    · obtain rfl : missing = [] := List.length_eq_zero_iff.mp (by omega)
      simp only [take, dif_neg (Nat.not_lt.mpr last), Option.toList_some, takeAll_nil,
        List.append_nil]

/-- The bytes of a frame bring that frame. -/
theorem takeAll_encode (f : Frame) : takeAll f.encode .idle = ([f], .idle) := by
  obtain ⟨opcode, payload⟩ := f
  rw [Frame.encode, takeAll_cons, take_idle, takeAll_cons]
  rcases Nat.eq_zero_or_pos payload.lengthByte.toNat with none | some
  · have bare : payload = .empty := by
      rw [Payload.toNat_lengthByte] at none
      exact Payload.ext (List.length_eq_zero_iff.mp none)
    rw [take_opened_of_zero none, bare]
    rfl
  · rw [take_opened_of_pos some,
      takeAll_missing opcode payload.lengthByte payload.toList [] some (by simp) payload.length_le]
    rfl

end Marquee.FrameReader
