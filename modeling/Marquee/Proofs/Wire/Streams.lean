import Marquee.Proofs.Wire.Reading

/-!
# Frames in a byte stream

A byte stream is some frames in a row and then the beginning of one more (`Splits`). What a reader
has in hand of the frame in progress are bytes as well (`held`), and a reader neither loses a byte
nor adds one (`takeAll_held`); the bytes in hand never complete a frame (`unfinished_held`). So a
stream splits in one way only, and the reader finds it, however the stream is cut into chunks and
however often `readFrame` has to be called for a chunk (`drain_splits`).
-/

namespace Marquee

/-- The bytes begin a frame and do not complete it. -/
def Unfinished (bytes : List UInt8) : Prop := ∃ f : Frame, bytes <+: f.encode ∧ bytes ≠ f.encode

/-- The bytes are those of the frames in a row, and then a rest that does not complete another. -/
structure Splits (bytes : List UInt8) (frames : List Frame) (rest : List UInt8) : Prop where
  /-- nothing is lost, added or moved -/
  joined : bytes = frames.flatMap Frame.encode ++ rest
  /-- the rest may be empty -/
  unfinished : Unfinished rest

namespace FrameReader

/-- The bytes in hand of the frame in progress. -/
def held : FrameReader → List UInt8
  | .idle => []
  | .opened opcode => [opcode]
  | .reading opcode length received _ => opcode :: length :: received

/-- Takes the chunks of a stream one after another. -/
def drain : List (List UInt8) → FrameReader → List Frame × FrameReader
  | [], r => ([], r)
  | chunk :: rest, r =>
    let (frames, next) := readAll chunk r
    let (more, last) := drain rest next
    (frames ++ more, last)

/-! ## Bytes in hand -/

@[simp] theorem held_idle : held .idle = [] := rfl

/-- A reader is between two frames exactly if it holds no byte. -/
theorem isBetweenFrames_iff (r : FrameReader) : r.isBetweenFrames = true ↔ r.held = [] := by
  cases r <;> simp [isBetweenFrames, held]

/-- A byte goes to the bytes in hand, or completes a frame with them. -/
theorem take_held (b : UInt8) (r : FrameReader) :
    r.held ++ [b] = (r.take b).1.toList.flatMap Frame.encode ++ (r.take b).2.held := by
  cases r with
  | idle => rfl
  | opened opcode =>
    rcases Nat.eq_zero_or_pos b.toNat with none | some
    · obtain rfl : b = 0 := UInt8.toNat_inj.mp none
      rw [take_opened_of_zero none]
      rfl
    · rw [take_opened_of_pos some]
      rfl
  | reading opcode length received short =>
    by_cases more : received.length + 1 < length.toNat
    · simp [take, more, held]
    · have full : received.length + 1 = length.toNat := by omega
      have hlength : UInt8.ofNat (received.length + 1) = length := by
        rw [full, UInt8.ofNat_toNat]
      simp [take, more, held, Frame.encode, Payload.lengthByte, hlength]

/-- A reader neither loses a byte nor adds one. -/
theorem takeAll_held (bytes : List UInt8) (r : FrameReader) :
    r.held ++ bytes = (takeAll bytes r).1.flatMap Frame.encode ++ (takeAll bytes r).2.held := by
  induction bytes generalizing r with
  | nil => simp
  | cons b rest ih =>
    have htake := take_held b r
    have hrest := ih (r.take b).2
    calc r.held ++ b :: rest = (r.held ++ [b]) ++ rest := by simp
      _ = (r.take b).1.toList.flatMap Frame.encode ++ ((r.take b).2.held ++ rest) := by
        rw [htake, List.append_assoc]
      _ = _ := by
        rw [hrest, takeAll_cons, List.flatMap_append, List.append_assoc]

theorem unfinished_nil : Unfinished [] :=
  ⟨.empty 0, List.nil_prefix, List.cons_ne_nil _ _ |>.symm⟩

/-- What is in hand does not complete a frame. -/
theorem unfinished_held (r : FrameReader) : Unfinished r.held := by
  cases r with
  | idle => exact unfinished_nil
  | opened opcode => exact ⟨.empty opcode, ⟨[0], rfl⟩, by simp [held, Frame.encode, Frame.empty]⟩
  | reading opcode length received short =>
    -- As many bytes as are missing complete the frame in progress, whatever they are.
    obtain ⟨missing, hmissing⟩ :
        ∃ missing : List UInt8, missing.length = length.toNat - received.length :=
      ⟨List.replicate _ 0, List.length_replicate⟩
    have total : (received ++ missing).length = length.toNat := by
      rw [List.length_append, hmissing]
      omega
    have fits : (received ++ missing).length ≤ maxPayload := by
      have := length.toNat_lt
      unfold maxPayload
      omega
    have hlength : Payload.lengthByte ⟨received ++ missing, fits⟩ = length := by
      rw [Payload.lengthByte, total, UInt8.ofNat_toNat]
    refine ⟨⟨opcode, ⟨received ++ missing, fits⟩⟩, ⟨missing, ?_⟩, fun whole => ?_⟩
    · simp [held, Frame.encode, hlength]
    · have hlen := congrArg List.length whole
      simp only [held, Frame.encode, List.length_cons, total] at hlen
      omega

/-! ## Where a stream is split -/

/-- Whole frames are read back, and the rest is read after them. -/
theorem takeAll_frames (frames : List Frame) (rest : List UInt8) :
    takeAll (frames.flatMap Frame.encode ++ rest) .idle =
      (frames ++ (takeAll rest .idle).1, (takeAll rest .idle).2) := by
  induction frames with
  | nil => rfl
  | cons f frames ih =>
    rw [List.flatMap_cons, List.append_assoc, takeAll_append, takeAll_encode, ih]
    rfl

/-- Bytes that do not complete a frame bring none, and stay in hand. -/
theorem takeAll_unfinished {rest : List UInt8} (h : Unfinished rest) :
    (takeAll rest .idle).1 = [] ∧ (takeAll rest .idle).2.held = rest := by
  obtain ⟨f, ⟨missing, hf⟩, hne⟩ := h
  have hwhole := takeAll_encode f
  rw [← hf, takeAll_append] at hwhole
  obtain ⟨hframes, hlast⟩ := Prod.mk.inj hwhole
  have hheld := takeAll_held rest .idle
  rw [held_idle, List.nil_append] at hheld
  cases hfirst : (takeAll rest .idle).1 with
  | nil =>
    rw [hfirst, List.flatMap_nil, List.nil_append] at hheld
    exact ⟨rfl, hheld.symm⟩
  | cons g more =>
    -- A frame before the missing bytes would be the whole one, with nothing left to be missing.
    rw [hfirst, List.cons_append] at hframes
    obtain ⟨-, hnone⟩ := List.cons.inj hframes
    have hmissing := takeAll_held missing (takeAll rest .idle).2
    rw [(List.append_eq_nil_iff.mp hnone).2, hlast] at hmissing
    have hnil : missing = [] := (List.append_eq_nil_iff.mp hmissing).2
    rw [hnil, List.append_nil] at hf
    exact absurd hf hne

/-- The reader finds the one way in which a stream is split. -/
theorem splits_iff {bytes : List UInt8} {frames : List Frame} {rest : List UInt8} :
    Splits bytes frames rest ↔
      (takeAll bytes .idle).1 = frames ∧ (takeAll bytes .idle).2.held = rest := by
  constructor
  · rintro ⟨rfl, hrest⟩
    obtain ⟨hnone, hheld⟩ := takeAll_unfinished hrest
    rw [takeAll_frames, hnone, List.append_nil]
    exact ⟨rfl, hheld⟩
  · rintro ⟨rfl, rfl⟩
    exact ⟨takeAll_held bytes .idle, unfinished_held _⟩

/-! ## Up to the end of a frame -/

/-- A call of `readFrame` has stopped at the end of the first frame, or at the end of the bytes if
no frame ends among them. -/
structure StopsAtFrame (bytes : List UInt8) (r : FrameReader) (frame? : Option Frame) (used : Nat)
    (next : FrameReader) : Prop where
  /-- the bytes used are among those given -/
  within : used ≤ bytes.length
  /-- a call on some bytes gets on -/
  progress : bytes ≠ [] → 0 < used
  /-- the bytes used bring the frame, and the reader stands after them -/
  used_bytes : takeAll (bytes.take used) r = (frame?.toList, next)
  /-- fewer bytes bring no frame -/
  first : ∀ n < used, (takeAll (bytes.take n) r).1 = []
  /-- without a frame all bytes are used -/
  whole : frame? = none → used = bytes.length

theorem readFrame_cons_of_some {b : UInt8} {rest : List UInt8} {r next : FrameReader} {f : Frame}
    (h : r.take b = (some f, next)) : readFrame (b :: rest) r = (some f, 1, next) := by
  simp only [readFrame, h]

theorem readFrame_cons_of_none {b : UInt8} {rest : List UInt8} {r next : FrameReader}
    (h : r.take b = (none, next)) :
    readFrame (b :: rest) r =
      ((readFrame rest next).1, (readFrame rest next).2.1 + 1, (readFrame rest next).2.2) := by
  simp only [readFrame, h]

/-- Reading a frame takes no byte after the one that completes it. -/
theorem readFrame_stops (bytes : List UInt8) (r : FrameReader) :
    StopsAtFrame bytes r (readFrame bytes r).1 (readFrame bytes r).2.1 (readFrame bytes r).2.2 := by
  induction bytes generalizing r with
  | nil =>
    exact ⟨Nat.le_refl 0, fun h => absurd rfl h, rfl, fun n hn => absurd hn (Nat.not_lt_zero n),
      fun _ => rfl⟩
  | cons b rest ih =>
    rcases h : r.take b with ⟨_ | f, next⟩
    · obtain ⟨hwithin, -, hused, hfirst, hwhole⟩ := ih next
      rw [readFrame_cons_of_none h]
      refine ⟨Nat.succ_le_succ hwithin, fun _ => Nat.succ_pos _, ?_, ?_, ?_⟩
      · rw [List.take_succ_cons, takeAll_cons, h, hused]
        rfl
      · intro n hn
        cases n with
        | zero => rfl
        | succ n =>
          rw [List.take_succ_cons, takeAll_cons, h, hfirst n (Nat.lt_of_succ_lt_succ hn)]
          rfl
      · intro hnone
        rw [hwhole hnone, List.length_cons]
    · rw [readFrame_cons_of_some h]
      refine ⟨Nat.succ_le_succ (Nat.zero_le _), fun _ => Nat.one_pos, ?_, ?_, nofun⟩
      · rw [List.take_succ_cons, takeAll_cons, h]
        rfl
      · intro n hn
        obtain rfl : n = 0 := Nat.lt_one_iff.mp hn
        rfl

/-! ## Chunk by chunk -/

theorem readAll_cons (b : UInt8) (rest : List UInt8) (r : FrameReader) :
    readAll (b :: rest) r =
      ((readFrame (b :: rest) r).1.toList ++
          (readAll ((b :: rest).drop (readFrame (b :: rest) r).2.1)
            (readFrame (b :: rest) r).2.2).1,
        (readAll ((b :: rest).drop (readFrame (b :: rest) r).2.1)
          (readFrame (b :: rest) r).2.2).2) := by
  rw [readAll]

/-- Calling `readFrame` until a chunk is used up is taking its bytes one by one. -/
theorem readAll_eq_takeAll (bytes : List UInt8) (r : FrameReader) :
    readAll bytes r = takeAll bytes r := by
  -- Each call leaves fewer bytes, so the induction is on how many there are.
  induction hn : bytes.length using Nat.strongRecOn generalizing bytes r with
  | ind n ih =>
    subst hn
    cases bytes with
    | nil => simp [readAll]
    | cons b rest =>
      have hstops := readFrame_stops (b :: rest) r
      have hshorter : ((b :: rest).drop (readFrame (b :: rest) r).2.1).length <
          (b :: rest).length := by
        have := hstops.progress (List.cons_ne_nil b rest)
        rw [List.length_drop, List.length_cons]
        omega
      have hcut := takeAll_append ((b :: rest).take (readFrame (b :: rest) r).2.1)
        ((b :: rest).drop (readFrame (b :: rest) r).2.1) r
      rw [List.take_append_drop, hstops.used_bytes] at hcut
      rw [readAll_cons, hcut, ih _ hshorter _ _ rfl]

theorem drain_cons (chunk : List UInt8) (rest : List (List UInt8)) (r : FrameReader) :
    drain (chunk :: rest) r =
      ((readAll chunk r).1 ++ (drain rest (readAll chunk r).2).1,
        (drain rest (readAll chunk r).2).2) := rfl

/-- Cutting a stream into chunks makes no difference. -/
theorem drain_eq_takeAll (chunks : List (List UInt8)) (r : FrameReader) :
    drain chunks r = takeAll chunks.flatten r := by
  induction chunks generalizing r with
  | nil => rfl
  | cons chunk rest ih =>
    rw [drain_cons, List.flatten_cons, takeAll_append, readAll_eq_takeAll, ih]

/-- From a stream in chunks a new reader makes the frames into which the stream is split, which is
possible in one way only. They are the frames that its bytes bring one by one; the reader is between
two frames afterwards if nothing is left over; a stream of whole frames brings these frames; and a
reader that was in use does the same once it has been restarted. Every single call of `readFrame`
stops at the end of the first frame. -/
theorem drain_splits (chunks : List (List UInt8)) :
    (∃ rest, Splits chunks.flatten (drain chunks .idle).1 rest ∧
        (∀ frames' rest', Splits chunks.flatten frames' rest' →
          frames' = (drain chunks .idle).1 ∧ rest' = rest) ∧
        ((drain chunks .idle).2.isBetweenFrames = true ↔ rest = [])) ∧
      takeAll chunks.flatten .idle = drain chunks .idle ∧
      (∀ frames : List Frame, chunks.flatten = frames.flatMap Frame.encode →
        drain chunks .idle = (frames, .idle)) ∧
      (∀ before : FrameReader, drain chunks before.restart = drain chunks .idle) ∧
      ∀ (bytes : List UInt8) (r : FrameReader),
        StopsAtFrame bytes r (readFrame bytes r).1 (readFrame bytes r).2.1
          (readFrame bytes r).2.2 := by
  have hdrain := drain_eq_takeAll chunks .idle
  refine ⟨⟨(drain chunks .idle).2.held, ?_, ?_, ?_⟩, hdrain.symm, ?_, fun _ => rfl,
    readFrame_stops⟩
  · rw [hdrain]
    exact splits_iff.mpr ⟨rfl, rfl⟩
  · intro frames' rest' h
    obtain ⟨rfl, rfl⟩ := splits_iff.mp h
    rw [hdrain]
    exact ⟨rfl, rfl⟩
  · exact isBetweenFrames_iff _
  · intro frames h
    rw [hdrain, h]
    simpa using takeAll_frames frames []

end FrameReader

end Marquee
