import Marquee.Number.Binary
import Marquee.Proofs.Number.Rounding
import Mathlib.Algebra.Order.Floor.Semifield
import Mathlib.Data.Rat.Floor

/-!
# The numbers of a binary format

A finite value stands for a number (`Binary.value`). Whatever a sum rounds to has no more
significant digits than the format, and a remainder by such a number has no more either; so the
remainder of a sum that is a number from zero on is one of the format, below the divisor
(`hasUnits_rem`).

A natural number that needs rounding may become larger by it, but no number of the format lies
between the two (`lt_of_lt_nearestUnits`). Of two that need none the quotient is finite, and
rounding does not take it past a third (`exists_div_ofNat`).
-/

namespace Marquee.Binary

variable {f : BinaryFormat} {x y : Binary f} {units n : Nat}

/-- The number that a value stands for, if it is finite. -/
def value : Binary f → Option ℚ
  | finite negative units => some (signed negative units / 2 ^ f.grain)
  | _ => none

/-- A finite value is a whole number of units. -/
theorem value_finite (units : Nat) :
    (finite false units : Binary f).value = some (units / 2 ^ f.grain : ℚ) := by
  simp [value, signed]

theorem value_zero : (zero : Binary f).value = some 0 := by
  simp [zero, value_finite]

/-! ## Numbers from zero on -/

/-- The value is this number of smallest values. Zero may have either sign. -/
structure HasUnits (x : Binary f) (units : Nat) : Prop where
  /-- the sign only shows at zero -/
  eq : x = finite false units ∨ x = finite true 0 ∧ units = 0
  /-- the format has the number -/
  significant : Significant f.precision units

theorem hasUnits_zero : (zero : Binary f).HasUnits 0 := ⟨.inl rfl, .zero⟩

theorem HasUnits.value (h : x.HasUnits units) : x.value = some (units / 2 ^ f.grain : ℚ) := by
  obtain ⟨rfl | ⟨rfl, rfl⟩, -⟩ := h
  · exact value_finite units
  · simp [Binary.value, signed]

/-- Cutting off to a word rounds down, and stops at the greatest word. -/
theorem HasUnits.truncate (h : x.HasUnits units) (bits : Nat) :
    x.truncate bits = min (units / 2 ^ f.grain) (2 ^ bits - 1) := by
  obtain ⟨rfl | ⟨rfl, rfl⟩, -⟩ := h
  · rfl
  · simp [Binary.truncate]

/-- Rounding down a number of units is dividing by the units in one. -/
theorem floor_units (f : BinaryFormat) (units : Nat) :
    ⌊(units / 2 ^ f.grain : ℚ)⌋₊ = units / 2 ^ f.grain := by
  have hdiv := Nat.floor_div_eq_div (K := ℚ) units (2 ^ f.grain)
  rw [Nat.cast_pow, Nat.cast_two] at hdiv
  exact hdiv

/-! ## Sums and remainders -/

/-- What comes out of rounding has no more digits than the format. -/
theorem significant_round (hf : 0 < f.precision) {negative sign : Bool} {num den : Nat}
    (hden : 0 < den) (h : round f negative num den = finite sign units) :
    Significant f.precision units := by
  rw [round] at h
  split at h
  · obtain ⟨-, rfl⟩ := finite.inj h
    exact significant_roundSignificant hf hden
  · cases h

/-- What comes out of an addition has no more digits than the format. -/
theorem significant_add (hf : 0 < f.precision) {sign : Bool} (h : x + y = finite sign units) :
    Significant f.precision units := by
  change add x y = _ at h
  cases x with
  | nan => cases h
  | infinite a =>
    cases y with
    | nan => cases h
    | infinite b =>
      rw [add] at h
      split at h <;> cases h
    | finite b n => cases h
  | finite a m =>
    cases y with
    | nan => cases h
    | infinite b => cases h
    | finite b n =>
      simp only [add] at h
      split at h
      · obtain ⟨-, rfl⟩ := finite.inj h
        exact .zero
      · exact significant_round hf Nat.one_pos h

/-- A remainder that is a number from zero on. -/
theorem hasUnits_rem (hx : ∀ sign m, x = finite sign m → Significant f.precision m)
    (hpos : 0 < n) (hn : Significant f.precision n)
    (hfinite : (x % finite false n).isFinite = true)
    (hle : zero.le (x % finite false n) = true) :
    ∃ units, (x % finite false n).HasUnits units ∧ units < n := by
  cases x with
  | nan => cases hfinite
  | infinite a => cases hfinite
  | finite a m =>
    have hrem : (finite a m % finite false n : Binary f) = finite a (m % n) :=
      if_neg (Nat.ne_of_gt hpos)
    have hsignificant : Significant f.precision (m % n) := (hx a m rfl).mod hn
    rw [hrem] at hle ⊢
    refine ⟨m % n, ⟨?_, hsignificant⟩, Nat.mod_lt m hpos⟩
    cases a with
    | false => exact .inl rfl
    | true =>
      have hsign : (0 : Int) ≤ -((m % n : Nat) : Int) := of_decide_eq_true hle
      have hnought : m % n = 0 := by omega
      exact .inr ⟨by rw [hnought], hnought⟩

/-! ## Natural numbers -/

/-- The smallest values in the nearest number of the format. -/
def nearestUnits (f : BinaryFormat) (n : Nat) : Nat :=
  roundSignificant f.precision (n * 2 ^ f.grain) 1

/-- The nearest value to a whole number has no more digits than the format. -/
theorem significant_nearestUnits (hf : 0 < f.precision) (n : Nat) :
    Significant f.precision (nearestUnits f n) :=
  significant_roundSignificant hf Nat.one_pos

/-- No number of the format lies between a natural number and the one that it is rounded to. -/
theorem lt_of_lt_nearestUnits (hf : 0 < f.precision) (hunits : Significant f.precision units)
    (h : units < nearestUnits f n) : units < n * 2 ^ f.grain := by
  by_contra hge
  apply Nat.not_le_of_lt h
  apply roundSignificant_le hf Nat.one_pos hunits
  omega

/-- A natural number that becomes larger by rounding. -/
example : (2 ^ 24 + 3) * 2 ^ 149 < nearestUnits .single (2 ^ 24 + 3) := by decide

/-- A positive number is not rounded to zero. -/
theorem nearestUnits_pos (hf : 0 < f.precision) (h : 0 < n) : 0 < nearestUnits f n := by
  have hone : 1 ≤ n * 2 ^ f.grain := Nat.mul_pos h (Nat.two_pow_pos f.grain)
  apply le_roundSignificant hf Nat.one_pos (.two_pow hf 0)
  simpa using hone

/-- A whole number below the ceiling of the format is rounded to a finite value. -/
theorem ofNat_eq_finite (hf : 0 < f.precision) {k : Nat} (hn : n < 2 ^ k)
    (hk : k + f.grain < f.ceiling) : ofNat f n = finite false (nearestUnits f n) := by
  have hle : nearestUnits f n ≤ 2 ^ (k + f.grain) := by
    apply roundSignificant_le hf Nat.one_pos (.two_pow hf _)
    rw [Nat.mul_one, Nat.pow_add]
    exact Nat.mul_le_mul_right _ (Nat.le_of_lt hn)
  have hlt : 2 ^ (k + f.grain) < 2 ^ f.ceiling := Nat.pow_lt_pow_right Nat.one_lt_two hk
  exact if_pos (Nat.lt_of_le_of_lt hle hlt)

/-- A natural number with no more digits than the format has is not rounded. -/
theorem nearestUnits_of_lt (hf : 0 < f.precision) (hn : n < 2 ^ f.precision) :
    nearestUnits f n = n * 2 ^ f.grain := by
  have hsignificant : Significant f.precision (n * 2 ^ f.grain) := ⟨n, f.grain, hn, rfl⟩
  apply Nat.le_antisymm
  · exact roundSignificant_le hf Nat.one_pos hsignificant (Nat.mul_one _).ge
  · exact le_roundSignificant hf Nat.one_pos hsignificant (Nat.mul_one _).le

/-- A quotient of natural numbers that are not rounded is finite, and not above any number of the
kind that the exact quotient is not above. -/
theorem exists_div_ofNat (hf : 0 < f.precision) (hrange : f.precision + f.grain < f.ceiling)
    {d bound : Nat} (hn : n < 2 ^ f.precision) (hd : d < 2 ^ f.precision)
    (hbound : bound < 2 ^ f.precision) (hpos : 0 < d) (hle : n ≤ bound * d) :
    ∃ units, ofNat f n / ofNat f d = finite false units ∧ units ≤ bound * 2 ^ f.grain := by
  have hdividend : ofNat f n = finite false (n * 2 ^ f.grain) := by
    rw [ofNat_eq_finite hf hn hrange, nearestUnits_of_lt hf hn]
  have hdivisor : ofNat f d = finite false (d * 2 ^ f.grain) := by
    rw [ofNat_eq_finite hf hd hrange, nearestUnits_of_lt hf hd]
  have hnonzero : 0 < d * 2 ^ f.grain := Nat.mul_pos hpos (Nat.two_pow_pos _)
  let units := roundSignificant f.precision (n * 2 ^ f.grain * 2 ^ f.grain) (d * 2 ^ f.grain)
  have hunits : units ≤ bound * 2 ^ f.grain := by
    apply roundSignificant_le hf hnonzero ⟨bound, f.grain, hbound, rfl⟩
    calc n * 2 ^ f.grain * 2 ^ f.grain
        ≤ bound * d * 2 ^ f.grain * 2 ^ f.grain :=
          Nat.mul_le_mul_right _ (Nat.mul_le_mul_right _ hle)
      _ = bound * 2 ^ f.grain * (d * 2 ^ f.grain) := by ring
  have hfinite : units < 2 ^ f.ceiling :=
    calc units ≤ bound * 2 ^ f.grain := hunits
      _ < 2 ^ f.precision * 2 ^ f.grain := Nat.mul_lt_mul_of_pos_right hbound (Nat.two_pow_pos _)
      _ = 2 ^ (f.precision + f.grain) := (Nat.pow_add ..).symm
      _ < 2 ^ f.ceiling := Nat.pow_lt_pow_right Nat.one_lt_two hrange
  refine ⟨units, ?_, hunits⟩
  rw [hdividend, hdivisor]
  change div (finite false (n * 2 ^ f.grain)) (finite false (d * 2 ^ f.grain)) = _
  rw [div, if_neg (Nat.ne_of_gt hnonzero)]
  exact if_pos hfinite

end Marquee.Binary
