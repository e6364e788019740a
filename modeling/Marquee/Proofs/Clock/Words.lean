import Marquee.Clock.Words
import Mathlib.Algebra.Order.Ring.Int
import Mathlib.Tactic.Ring

/-!
# No word of the clock overflows

A computation in words gives a number if it ends with a word that stands for that number
(`Word.Gives`). Each operation gives what its name says as long as the result lies between the
least and the greatest word; for the two that divide by a positive word it always does, and the
correction that they make turns the quotient toward zero into the one that rounds down.

With that every reading of the clock has a time of day (`ClockWords.exists_timeOfDay`). For the
beats an hour is added to the time first, so their day has a position for every time but those of
the last hour that a word can tell (`ClockWords.gives_beatsDayMs`).
-/

namespace Marquee

namespace Word

/-- The computation ends with a word for this number. -/
def Gives (result : Option Int64) (n : Int) : Prop :=
  ∃ word, result = some word ∧ word.toInt = n

variable {a b : Int64} {n m : Int}

/-! ## Results that are words -/

/-- A word lies between the least one and the greatest. -/
theorem toInt_bounds (a : Int64) : -2 ^ 63 ≤ a.toInt ∧ a.toInt < 2 ^ 63 := ⟨a.le_toInt, a.toInt_lt⟩

theorem neg_iff : a < 0 ↔ a.toInt < 0 := Int64.lt_iff_toInt_lt

theorem pos_iff : 0 < a ↔ 0 < a.toInt := Int64.lt_iff_toInt_lt

/-- A number in range is given by its word. -/
theorem gives_ofInt (least : -2 ^ 63 ≤ n) (greatest : n < 2 ^ 63) : Gives (ofInt? n) n := by
  have hrange : Int64.minValue.toInt ≤ n ∧ n ≤ Int64.maxValue.toInt := by
    rw [Int64.toInt_minValue, Int64.toInt_maxValue]
    omega
  exact ⟨Int64.ofInt n, if_pos hrange, Int64.toInt_ofInt_of_le least greatest⟩

/-- A calculation goes on with the number that its first part gives. -/
theorem Gives.bind {result : Option Int64} (h : Gives result n) {rest : Int64 → Option Int64}
    (hrest : ∀ word, word.toInt = n → Gives (rest word) m) : Gives (result >>= rest) m := by
  obtain ⟨word, rfl, hword⟩ := h
  exact hrest word hword

/-- A sum in range does not overflow. -/
theorem gives_add (least : -2 ^ 63 ≤ a.toInt + b.toInt) (greatest : a.toInt + b.toInt < 2 ^ 63) :
    Gives (add? a b) (a.toInt + b.toInt) := gives_ofInt least greatest

/-- A difference in range does not overflow. -/
theorem gives_sub (least : -2 ^ 63 ≤ a.toInt - b.toInt) (greatest : a.toInt - b.toInt < 2 ^ 63) :
    Gives (sub? a b) (a.toInt - b.toInt) := gives_ofInt least greatest

/-! ## Division by a positive word -/

/-- Dividing by a positive number and cutting off leads to no overflow. -/
theorem tdiv_bounds (a : Int64) (hb : 0 < n) :
    -2 ^ 63 ≤ a.toInt.tdiv n ∧ a.toInt.tdiv n < 2 ^ 63 := by
  have ha := toInt_bounds a
  have hsize := Int.natAbs_tdiv_le_natAbs a.toInt n
  rcases Int.le_total 0 a.toInt with hpos | hneg
  · omega
  · have hsign : 0 ≤ (-a.toInt).tdiv n := Int.tdiv_nonneg (Int.neg_nonneg_of_nonpos hneg) hb.le
    rw [Int.neg_tdiv] at hsign
    omega

/-- Dividing by a positive number and rounding down leads to no overflow. -/
theorem ediv_bounds (a : Int64) (hb : 0 < n) : -2 ^ 63 ≤ a.toInt / n ∧ a.toInt / n < 2 ^ 63 := by
  have ha := toInt_bounds a
  constructor
  · rw [Int.le_ediv_iff_mul_le hb]
    have hscaled : -2 ^ 63 * n ≤ -2 ^ 63 := by omega
    omega
  · rw [Int.ediv_lt_iff_lt_mul hb]
    omega

/-- Division by a positive word cuts off. -/
theorem gives_div (hb : 0 < b.toInt) : Gives (div? a b) (a.toInt.tdiv b.toInt) := by
  have hne : b ≠ 0 := fun h => by simp [h] at hb
  rw [div?, if_neg hne]
  have hbounds := tdiv_bounds a hb
  exact gives_ofInt hbounds.1 hbounds.2

/-- The remainder by a positive word has the sign of the dividend. -/
theorem gives_rem (hb : 0 < b.toInt) : Gives (rem? a b) (a.toInt.tmod b.toInt) := by
  refine (gives_div hb).bind fun _ _ => ?_
  have hbounds := toInt_bounds b
  have hlow := Int.lt_tmod_of_pos a.toInt hb
  have hhigh := Int.tmod_lt_of_pos a.toInt hb
  exact gives_ofInt (by omega) (by omega)

/-- The correction of a quotient toward zero and of its remainder if the remainder is negative. -/
theorem ediv_emod_of_tmod_neg (hm : 0 < m) (h : n.tmod m < 0) :
    n / m = n.tdiv m - 1 ∧ n % m = n.tmod m + m := by
  rw [Int.ediv_emod_unique hm]
  have hlow := Int.lt_tmod_of_pos n hm
  refine ⟨?_, by omega, by omega⟩
  calc n.tmod m + m + m * (n.tdiv m - 1) = m * n.tdiv m + n.tmod m := by ring
    _ = n := Int.mul_tdiv_add_tmod n m

/-- Where the remainder is not negative, cutting off is rounding down. -/
theorem ediv_emod_of_tmod_nonneg (hm : 0 < m) (h : 0 ≤ n.tmod m) :
    n / m = n.tdiv m ∧ n % m = n.tmod m := by
  rw [Int.ediv_emod_unique hm]
  refine ⟨?_, h, Int.tmod_lt_of_pos n hm⟩
  rw [Int.add_comm]
  exact Int.mul_tdiv_add_tmod n m

/-- Euclidean division by a positive word rounds down. -/
theorem gives_divEuclid (hb : 0 < b.toInt) : Gives (divEuclid? a b) (a.toInt / b.toInt) := by
  refine (gives_div hb).bind fun quotient hquotient => (gives_rem hb).bind fun rest hrest => ?_
  by_cases hneg : rest < 0
  · rw [if_pos hneg, if_pos (pos_iff.mpr hb)]
    rw [neg_iff, hrest] at hneg
    have hbounds := ediv_bounds a hb
    have hone : (1 : Int64).toInt = 1 := Int64.toInt_one
    rw [(ediv_emod_of_tmod_neg hb hneg).1, ← hquotient] at hbounds ⊢
    rw [← hone] at hbounds ⊢
    exact gives_sub hbounds.1 hbounds.2
  · rw [if_neg hneg]
    rw [neg_iff, hrest, Int.not_lt] at hneg
    exact ⟨quotient, rfl, by rw [hquotient, (ediv_emod_of_tmod_nonneg hb hneg).1]⟩

/-- The Euclidean remainder by a positive word is what rounding down leaves. -/
theorem gives_remEuclid (hb : 0 < b.toInt) : Gives (remEuclid? a b) (a.toInt % b.toInt) := by
  refine (gives_rem hb).bind fun rest hrest => ?_
  by_cases hneg : rest < 0
  · have hpos : ¬b < 0 := by
      rw [neg_iff]
      omega
    rw [if_pos hneg, if_neg hpos]
    rw [neg_iff, hrest] at hneg
    have hbounds := toInt_bounds b
    have hlow := Int.lt_tmod_of_pos a.toInt hb
    rw [(ediv_emod_of_tmod_neg hb hneg).2, ← hrest]
    exact gives_add (by omega) (by omega)
  · rw [if_neg hneg]
    rw [neg_iff, hrest, Int.not_lt] at hneg
    exact ⟨rest, rfl, by rw [hrest, (ediv_emod_of_tmod_nonneg hb hneg).2]⟩

/-- The lowest byte of a word that is a byte. -/
theorem toNat_lowByte (h : a.toInt = n) (hpos : 0 ≤ n) (hlt : n < 256) :
    ((lowByte a).toNat : Int) = n := by
  have hnonneg : 0 ≤ a := by
    rw [Int64.le_iff_toInt_le, Int64.toInt_zero, h]
    exact hpos
  have hclamp := Int64.toInt_eq_toNatClampNeg hnonneg
  rw [lowByte, UInt64.toNat_toUInt8, Int64.toNat_toUInt64_of_le hnonneg]
  omega

end Word

/-! ## The time of day -/

namespace TimeOfDay

/-- The time is one that a clock shows. -/
structure InDay (time : TimeOfDay) : Prop where
  /-- a day has 24 hours -/
  hour : time.hour < 24
  /-- an hour has 60 minutes -/
  minute : time.minute < 60
  /-- a minute has 60 seconds -/
  second : time.second < 60

/-- The seconds since the start of the day. -/
def seconds (time : TimeOfDay) : Nat := 3600 * time.hour + 60 * time.minute + time.second

theorem inDay_ofSecond {second : Nat} (h : second < 86400) : (ofSecond second).InDay := by
  constructor <;> simp only [ofSecond] <;> omega

/-- A second of the day is found again in its hours, minutes and seconds. -/
theorem seconds_ofSecond (second : Nat) : (ofSecond second).seconds = second := by
  simp only [seconds, ofSecond]
  omega

end TimeOfDay

namespace ClockReading

/-- The second of the day is that of the shifted clock, also before the epoch. -/
theorem secondOfDay_eq (t : ClockReading) :
    (t.secondOfDay : Int) = (t.unixMs / 1000 + t.utcOffsetS) % 86400 :=
  Int.toNat_of_nonneg (Int.emod_nonneg _ (by decide))

/-- Every reading of the clock has a time of day. -/
theorem inDay_timeOfDay (t : ClockReading) : t.timeOfDay.InDay := by
  have heq := t.secondOfDay_eq
  exact TimeOfDay.inDay_ofSecond (by omega)

end ClockReading

/-- The words are those of a time of day. -/
structure TimeWords.Denote (words : TimeWords) (time : TimeOfDay) : Prop where
  /-- of the hours -/
  hour : words.hour.toInt = time.hour
  /-- of the minutes -/
  minute : words.minute.toInt = time.minute
  /-- of the seconds -/
  second : words.second.toInt = time.second

/-- No part of a time that a clock shows is too large for a byte. -/
theorem TimeWords.Denote.time_bytes {words : TimeWords} {time : TimeOfDay}
    (denote : words.Denote time) (inDay : time.InDay) : words.bytes.time = time := by
  obtain ⟨hour, minute, second⟩ := time
  obtain ⟨hhour, hminute, hsecond⟩ := inDay
  have hhours := Word.toNat_lowByte denote.hour (by omega) (by dsimp only at hhour ⊢; omega)
  have hminutes := Word.toNat_lowByte denote.minute (by omega) (by dsimp only at hminute ⊢; omega)
  have hseconds := Word.toNat_lowByte denote.second (by omega) (by dsimp only at hsecond ⊢; omega)
  simp only [bytes, TimeBytes.time, TimeOfDay.mk.injEq]
  exact ⟨Int.ofNat_inj.mp hhours, Int.ofNat_inj.mp hminutes, Int.ofNat_inj.mp hseconds⟩

namespace ClockWords

/-- The whole seconds of a time are so few that no offset takes them out of range. -/
theorem gives_secondOfDay (t : ClockWords) : Word.Gives t.secondOfDay? t.reading.secondOfDay := by
  have hms := Word.toInt_bounds t.unixMs
  have hoffset : -2 ^ 31 ≤ t.utcOffsetS.toInt ∧ t.utcOffsetS.toInt < 2 ^ 31 :=
    ⟨t.utcOffsetS.le_toInt, t.utcOffsetS.toInt_lt⟩
  rw [t.reading.secondOfDay_eq]
  refine (Word.gives_divEuclid (b := 1000) (by decide)).bind fun unixS hunixS => ?_
  change unixS.toInt = t.unixMs.toInt / 1000 at hunixS
  rw [← Int32.toInt_toInt64] at hoffset
  refine (Word.gives_add (by omega) (by omega)).bind fun localS hlocalS => ?_
  rw [hunixS, Int32.toInt_toInt64] at hlocalS
  have hday : Word.Gives (Word.remEuclid? localS 86400) (localS.toInt % 86400) :=
    Word.gives_remEuclid (b := 86400) (by decide)
  rwa [hlocalS] at hday

/-- Every reading has a time of day. -/
theorem exists_timeOfDay (t : ClockWords) :
    ∃ words, t.timeOfDay? = some words ∧ words.Denote t.reading.timeOfDay := by
  obtain ⟨ofDay, hofDay, hseconds⟩ := t.gives_secondOfDay
  obtain ⟨hour, hhour, hhours⟩ := Word.gives_div (a := ofDay) (b := 3600) (by decide)
  obtain ⟨minutes, hminutes, hallMinutes⟩ := Word.gives_div (a := ofDay) (b := 60) (by decide)
  obtain ⟨minute, hminute, hminuteOf⟩ := Word.gives_rem (a := minutes) (b := 60) (by decide)
  obtain ⟨second, hsecond, hsecondOf⟩ := Word.gives_rem (a := ofDay) (b := 60) (by decide)
  have hnonneg : 0 ≤ ofDay.toInt := by omega
  -- On numbers from zero on the two ways to divide agree.
  rw [Int.tdiv_eq_ediv_of_nonneg hnonneg] at hhours hallMinutes
  have hminutesNonneg : 0 ≤ minutes.toInt := hallMinutes ▸ Int.ediv_nonneg hnonneg (by decide)
  rw [Int.tmod_eq_emod_of_nonneg hminutesNonneg, hallMinutes] at hminuteOf
  rw [Int.tmod_eq_emod_of_nonneg hnonneg] at hsecondOf
  rw [hseconds] at hhours hminuteOf hsecondOf
  refine ⟨⟨hour, minute, second⟩, ?_, ⟨hhours, hminuteOf, hsecondOf⟩⟩
  simp [timeOfDay?, hofDay, hhour, hminutes, hminute, hsecond]

/-! ## The day of the beats -/

/-- The position in the day of the beats, for all times that are not in the last hour of all. -/
theorem gives_beatsDayMs (t : ClockWords) (h : t.unixMs.toInt ≤ Int64.maxValue.toInt - 3600000) :
    Word.Gives t.beatsDayMs? (Marquee.beatsDayMs t.unixMs.toInt) := by
  have hms := Word.toInt_bounds t.unixMs
  have hhour : (3600000 : Int64).toInt = 3600000 := by decide
  rw [Int64.toInt_maxValue] at h
  refine (Word.gives_add (b := 3600000) (by omega) (by omega)).bind fun ahead hahead => ?_
  have hday : Word.Gives (Word.remEuclid? ahead 86400000) (ahead.toInt % 86400000) :=
    Word.gives_remEuclid (b := 86400000) (by decide)
  rw [hahead, hhour] at hday
  rwa [Marquee.beatsDayMs, Int.toNat_of_nonneg (Int.emod_nonneg _ (by decide))]

/-- The beats in machine words are those in whole numbers, unless the reading is too close to the
end of the words to be shifted by an hour. -/
theorem beats_eq (t : ClockWords) (h : t.unixMs.toInt ≤ Int64.maxValue.toInt - 3600000) :
    t.beats? = some (Marquee.beats t.unixMs.toInt) := by
  obtain ⟨day, hday, hms⟩ := t.gives_beatsDayMs h
  have hclamp : day.toNatClampNeg = Marquee.beatsDayMs t.unixMs.toInt := by
    rw [Int64.toNatClampNeg, hms, Int.toNat_natCast]
  simp [beats?, hday, hclamp, Marquee.beats]

end ClockWords

end Marquee
