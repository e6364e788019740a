import Marquee.Proofs.Clock.Words
import Marquee.Proofs.Number.Binary
import Marquee.Proofs.Number.Decimal

/-!
# The clock face in words, bytes and eight places

The time of day is eight characters long because its parts are below a hundred, and the beats have
seven at most: not more than a thousand of them are in a day, also after rounding twice. So there is
room for both texts whatever pieces they come in (`Text.gather_of_fits`), and the face that the
machine computes is the one that the numbers say (`ClockWords.face_eq`). That one depends on the
time within a day only (`ClockReading.face_shift`).
-/

namespace Marquee

/-! ## Room for a text -/

/-- A text that there is room for is put together in full, whatever its pieces are. -/
theorem Text.gather_of_fits {room : Nat} {pieces : List String} {text : String}
    (hjoin : String.join pieces = text) (h : byteCount text ≤ room) :
    gather room pieces = text := by
  subst hjoin
  induction pieces generalizing room with
  | nil => rfl
  | cons piece rest ih =>
    rw [String.join_cons, byteCount, String.utf8ByteSize_append] at h
    have hpiece : byteCount piece ≤ room := by
      unfold byteCount
      omega
    have hrest : byteCount (String.join rest) ≤ room - byteCount piece := by
      unfold byteCount
      omega
    rw [gather, if_pos hpiece, ih hrest, String.join_cons]

/-! ## The text of a time -/

theorem TimeOfDay.join_pieces (time : TimeOfDay) : String.join time.pieces = time.text := by
  simp only [pieces, text, String.join_cons, String.join_nil, String.append_empty,
    String.ofList_append, String.ofList_cons, String.append_assoc]
  rfl

namespace TimeBytes

/-- Two digits for each part, with colons between them. -/
def ascii (t : TimeBytes) : List UInt8 :=
  [0x30 + t.hour / 10, 0x30 + t.hour % 10, 0x3a, 0x30 + t.minute / 10, 0x30 + t.minute % 10, 0x3a,
    0x30 + t.second / 10, 0x30 + t.second % 10]

theorem utf8_text {t : TimeBytes} (h : t.time.InDay) : Text.utf8 t.time.text = t.ascii := by
  have hhour : t.hour.toNat < 24 := h.hour
  have hminute : t.minute.toNat < 60 := h.minute
  have hsecond : t.second.toNat < 60 := h.second
  have hcolon : Text.Ascii [':'] := by
    intro c hc
    obtain rfl := List.mem_singleton.mp hc
    decide
  have hascii := ((Decimal.ascii_twoDigits t.hour.toNat).append hcolon).append
    (((Decimal.ascii_twoDigits t.minute.toNat).append hcolon).append
      (Decimal.ascii_twoDigits t.second.toNat))
  have hutf8 := Text.utf8_of_ascii hascii
  simp only [List.map_append, Decimal.map_twoDigits (show t.hour.toNat < 100 by omega),
    Decimal.map_twoDigits (show t.minute.toNat < 100 by omega),
    Decimal.map_twoDigits (show t.second.toNat < 100 by omega)] at hutf8
  have hcolonByte : ':'.toUInt8 = 0x3a := by decide
  simpa [TimeOfDay.text, time, ascii, hcolonByte] using hutf8

theorem byteCount_text {t : TimeBytes} (h : t.time.InDay) :
    Text.byteCount t.time.text = ClockFace.capacity := by
  rw [Text.byteCount, ← Text.length_utf8, utf8_text h]
  rfl

end TimeBytes

/-! ## The text of the beats -/

theorem beatsDayMs_lt (unixMs : Int) : beatsDayMs unixMs < 86400000 := by
  unfold beatsDayMs
  omega

/-- Not more than a thousand beats are in a day. -/
theorem exists_beats (unixMs : Int) :
    ∃ units, beats unixMs = .finite false units ∧ units ≤ 1000 * 2 ^ BinaryFormat.double.grain := by
  have hday := beatsDayMs_lt unixMs
  have hprecision : (86400000 : Nat) < 2 ^ BinaryFormat.double.precision := by decide
  exact Binary.exists_div_ofNat (by decide) (by decide) (by omega) (by decide) (by decide)
    (by decide) (by omega)

theorem byteCount_beatsText (unixMs : Int) :
    Text.byteCount (ClockFace.beatsText (beats unixMs)) ≤ ClockFace.capacity := by
  obtain ⟨units, hbeats, hunits⟩ := exists_beats unixMs
  have hcount : ClockFace.beatsFormat.count .double units ≤ 1000 * 10 ^ 2 :=
    Decimal.FixedFormat.count_le hunits
  rw [hbeats]
  calc Text.byteCount (ClockFace.beatsFormat.write _)
      ≤ max 6 (4 + 1 + 2) :=
        Decimal.FixedFormat.byteCount_write_le (by decide) (by decide)
          (Nat.lt_of_le_of_lt hcount (by decide))
    _ ≤ ClockFace.capacity := by decide

/-! ## The face -/

theorem ClockReading.byteCount_beats (t : ClockReading) :
    Text.byteCount t.face.beats ≤ ClockFace.capacity := by
  have hbeats : t.face.beats = ClockFace.beatsText (Marquee.beats t.unixMs) := by rw [face]
  rw [hbeats]
  exact byteCount_beatsText t.unixMs

/-- The face depends on the time within a day only, and on the offset up to whole days. -/
theorem ClockReading.face_shift (t : ClockReading) (days turns : Int) :
    ClockReading.face ⟨t.unixMs + days * 86400000, t.utcOffsetS + turns * 86400⟩ = t.face := by
  have hsecond : ClockReading.secondOfDay
      ⟨t.unixMs + days * 86400000, t.utcOffsetS + turns * 86400⟩ = t.secondOfDay := by
    simp only [secondOfDay]
    omega
  have hbeats : Marquee.beatsDayMs (t.unixMs + days * 86400000) = Marquee.beatsDayMs t.unixMs := by
    unfold Marquee.beatsDayMs
    omega
  simp only [face, timeOfDay, Marquee.beats, hsecond, hbeats]

namespace ClockWords

/-- The face in machine words is the one in whole numbers, unless the reading is too close to the
end of the words to be shifted by an hour. -/
theorem face_eq (t : ClockWords) (h : t.unixMs.toInt ≤ Int64.maxValue.toInt - 3600000) :
    t.face? = some t.reading.face := by
  obtain ⟨words, hwords, hdenote⟩ := t.exists_timeOfDay
  have htime := hdenote.time_bytes t.reading.inDay_timeOfDay
  have hday : words.bytes.time.InDay := htime ▸ t.reading.inDay_timeOfDay
  have htimeText : Text.gather ClockFace.capacity words.bytes.time.pieces =
      t.reading.timeOfDay.text := by
    rw [← htime]
    exact Text.gather_of_fits (TimeOfDay.join_pieces _) (TimeBytes.byteCount_text hday).le
  have hjoin (text : String) : String.join [text] = text := by
    rw [String.join_cons, String.join_nil, String.append_empty]
  have hbeatsText : Text.gather ClockFace.capacity
      [ClockFace.beatsText (Marquee.beats t.unixMs.toInt)] =
        ClockFace.beatsText (Marquee.beats t.unixMs.toInt) :=
    Text.gather_of_fits (hjoin _) (byteCount_beatsText t.unixMs.toInt)
  simp only [face?, hwords, t.beats_eq h, Option.bind_eq_bind, Option.bind_some, htimeText,
    hbeatsText]
  rfl

end ClockWords

/-- Every reading has a time of day, and nothing of it is lost in bytes: the parts are in range,
they are the local second of the day that the reading says, also before 1970, and their text is
eight bytes long and has room in whatever pieces it comes. Up to the last hour that a word can tell
the position in the day of the beats is the one an hour ahead of universal time, whatever the offset
is, and whole days change nothing on the face, be they added to the time or to the offset. -/
theorem clock_exact (t : ClockWords) :
    (∃ (words : TimeWords) (bytes : TimeBytes), t.timeOfDay? = some words ∧ words.bytes = bytes ∧
      (bytes.hour.toNat = words.hour.toInt ∧ bytes.minute.toNat = words.minute.toInt ∧
        bytes.second.toNat = words.second.toInt) ∧
      (bytes.hour.toNat < 24 ∧ bytes.minute.toNat < 60 ∧ bytes.second.toNat < 60) ∧
      (3600 * bytes.hour.toNat + 60 * bytes.minute.toNat + bytes.second.toNat : Int) =
        (t.unixMs.toInt.fdiv 1000 + t.utcOffsetS.toInt) % 86400 ∧
      bytes.time = t.reading.timeOfDay ∧
      Text.utf8 bytes.time.text = bytes.ascii ∧
      ∀ pieces, String.join pieces = bytes.time.text →
        Text.gather ClockFace.capacity pieces = bytes.time.text) ∧
    (t.unixMs.toInt ≤ Int64.maxValue.toInt - 3600000 →
      (∃ day, (∀ offset, ({ t with utcOffsetS := offset } : ClockWords).beatsDayMs? = some day) ∧
        day.toInt = (t.unixMs.toInt + 3600000) % 86400000 ∧
        0 ≤ day.toInt ∧ day.toInt < 86400000) ∧
      t.face? = some t.reading.face ∧
      (∀ pieces, String.join pieces = t.reading.face.beats →
        Text.gather ClockFace.capacity pieces = t.reading.face.beats) ∧
      ∀ (t' : ClockWords) (days turns : Int),
        t'.unixMs.toInt ≤ Int64.maxValue.toInt - 3600000 →
        t'.unixMs.toInt = t.unixMs.toInt + days * 86400000 →
        t'.utcOffsetS.toInt = t.utcOffsetS.toInt + turns * 86400 → t'.face? = t.face?) := by
  constructor
  · -- The parts of the time are those in whole numbers, so they have the range of a time of day.
    obtain ⟨words, hwords, hdenote⟩ := t.exists_timeOfDay
    have hinDay := t.reading.inDay_timeOfDay
    have htime := hdenote.time_bytes hinDay
    have hday : words.bytes.time.InDay := htime ▸ hinDay
    have hhour : words.bytes.hour.toNat = t.reading.timeOfDay.hour :=
      congrArg TimeOfDay.hour htime
    have hminute : words.bytes.minute.toNat = t.reading.timeOfDay.minute :=
      congrArg TimeOfDay.minute htime
    have hsecond : words.bytes.second.toNat = t.reading.timeOfDay.second :=
      congrArg TimeOfDay.second htime
    refine ⟨words, words.bytes, hwords, rfl, ⟨?_, ?_, ?_⟩,
      ⟨hday.hour, hday.minute, hday.second⟩, ?_, htime, TimeBytes.utf8_text hday, ?_⟩
    · rw [hhour, hdenote.hour]
    · rw [hminute, hdenote.minute]
    · rw [hsecond, hdenote.second]
    · have hseconds : t.reading.timeOfDay.seconds = t.reading.secondOfDay :=
        TimeOfDay.seconds_ofSecond _
      have hsecondOfDay := t.reading.secondOfDay_eq
      rw [← hseconds, TimeOfDay.seconds, ← hhour, ← hminute, ← hsecond] at hsecondOfDay
      rw [Int.fdiv_eq_ediv_of_nonneg _ (by decide)]
      exact_mod_cast hsecondOfDay
    · intro pieces hpieces
      exact Text.gather_of_fits hpieces (TimeBytes.byteCount_text hday).le
  · intro hrange
    obtain ⟨day, hday, hposition⟩ := t.gives_beatsDayMs hrange
    have hmod : (Marquee.beatsDayMs t.unixMs.toInt : Int) =
        (t.unixMs.toInt + 3600000) % 86400000 :=
      Int.toNat_of_nonneg (Int.emod_nonneg _ (by decide))
    refine ⟨⟨day, fun _ => hday, hposition.trans hmod, by omega, by omega⟩, t.face_eq hrange,
      ?_, ?_⟩
    · intro pieces hpieces
      exact Text.gather_of_fits hpieces t.reading.byteCount_beats
    · -- Whole days change the reading, but not the face of the reading.
      intro t' days turns hrange' hdays hturns
      have hreading : t'.reading =
          ⟨t.reading.unixMs + days * 86400000, t.reading.utcOffsetS + turns * 86400⟩ := by
        simp only [ClockWords.reading, hdays, hturns]
      rw [t'.face_eq hrange', t.face_eq hrange, hreading, ClockReading.face_shift]

/-- A millisecond before 1970, an hour behind universal time, and a day earlier a day further. -/
theorem clock_exact_before_1970 :
    let t : ClockWords := ⟨-1, -3600⟩
    let t' : ClockWords := ⟨-86400001, 82800⟩
    t.unixMs.toInt ≤ Int64.maxValue.toInt - 3600000 ∧
      t'.unixMs.toInt ≤ Int64.maxValue.toInt - 3600000 ∧
      t'.unixMs.toInt = t.unixMs.toInt + -1 * 86400000 ∧
      t'.utcOffsetS.toInt = t.utcOffsetS.toInt + 1 * 86400 ∧
      t'.face? = t.face? ∧ t.face? = some ⟨"22:59:59", "041.67"⟩ := by
  intro t t'
  have hrange : t.unixMs.toInt ≤ Int64.maxValue.toInt - 3600000 := by decide
  have hrange' : t'.unixMs.toInt ≤ Int64.maxValue.toInt - 3600000 := by decide
  have hdays : t'.unixMs.toInt = t.unixMs.toInt + -1 * 86400000 := by decide
  have hturns : t'.utcOffsetS.toInt = t.utcOffsetS.toInt + 1 * 86400 := by decide
  obtain ⟨-, hface, -, hshift⟩ := (clock_exact t).2 hrange
  refine ⟨hrange, hrange', hdays, hturns, hshift t' (-1) 1 hrange' hdays hturns, ?_⟩
  rw [hface]
  decide +kernel

end Marquee
