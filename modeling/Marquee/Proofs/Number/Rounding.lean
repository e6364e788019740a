import Marquee.Number.Binary
import Mathlib.Algebra.Order.Ring.Nat

/-!
# Rounding never passes a number that needs none

A number of at most `digits` significant binary digits needs no rounding (`Significant`). Rounding
gives such a number, and never passes one on the way: what is at most a significant number is still
at most that number after rounding, and the same from the other side (`roundSignificant_le`,
`le_roundSignificant`). The remainder of one significant number by another is significant.

Rounding works on a grid whose step depends on the size of the quotient. Significant numbers of at
least that size lie on the grid, which is all that the proofs use.
-/

namespace Marquee

/-! ## Whole quotients -/

/-- Rounding a quotient does not take it below a whole number that it was not below. -/
theorem le_roundDiv {num den k : Nat} (hden : 0 < den) (h : k * den ≤ num) :
    k ≤ roundDiv num den := by
  have hwhole : k ≤ num / den := (Nat.le_div_iff_mul_le hden).mpr h
  simp only [roundDiv]
  split <;> omega

/-- Rounding a quotient does not take it above a whole number that it was not above. -/
theorem roundDiv_le {num den k : Nat} (hden : 0 < den) (h : num ≤ k * den) :
    roundDiv num den ≤ k := by
  simp only [roundDiv]
  rcases Nat.lt_or_ge (num / den) k with hlt | hge
  · split <;> omega
  · -- The quotient is exact, so nothing is rounded up.
    have hnum : num = k * den := Nat.le_antisymm h ((Nat.le_div_iff_mul_le hden).mp hge)
    subst hnum
    have hwhole : k * den / den = k := Nat.mul_div_cancel k hden
    have hrest : k * den % den = 0 := Nat.mul_mod_left k den
    rw [hwhole, hrest]
    split <;> omega

/-! ## Significant digits -/

/-- The number has at most this many significant binary digits. -/
def Significant (digits u : Nat) : Prop := ∃ m e, m < 2 ^ digits ∧ u = m * 2 ^ e

namespace Significant

variable {digits u v : Nat}

theorem zero : Significant digits 0 := ⟨0, 0, Nat.two_pow_pos digits, (Nat.zero_mul _).symm⟩

/-- A power of two has one digit. -/
theorem two_pow (h : 0 < digits) (k : Nat) : Significant digits (2 ^ k) :=
  ⟨1, k, Nat.one_lt_two_pow (Nat.ne_of_gt h), (Nat.one_mul _).symm⟩

/-- The larger a significant number is, the more zeros it ends in. -/
theorem dvd (h : Significant digits u) {k : Nat} (hk : 2 ^ k ≤ u) :
    2 ^ (k + 1 - digits) ∣ u := by
  obtain ⟨m, e, hm, rfl⟩ := h
  have hlt : 2 ^ k < 2 ^ (digits + e) := by
    rw [Nat.pow_add]
    exact Nat.lt_of_le_of_lt hk (Nat.mul_lt_mul_of_pos_right hm (Nat.two_pow_pos e))
  have hexponent : k < digits + e := (Nat.pow_lt_pow_iff_right Nat.one_lt_two).mp hlt
  have hstep : 2 ^ (k + 1 - digits) ∣ 2 ^ e := Nat.pow_dvd_pow 2 (by omega)
  exact Nat.dvd_mul_left_of_dvd hstep m

/-- A number that ends in enough zeros for its size is significant. -/
theorem of_dvd (h : 0 < digits) {k : Nat} (hdvd : 2 ^ (k + 1 - digits) ∣ u)
    (hu : u ≤ 2 ^ (k + 1)) : Significant digits u := by
  rcases Nat.lt_or_ge u (2 ^ (k + 1)) with hlt | hge
  · obtain ⟨m, rfl⟩ := hdvd
    refine ⟨m, k + 1 - digits, ?_, Nat.mul_comm _ _⟩
    have hbound : 2 ^ (k + 1) ≤ 2 ^ (k + 1 - digits) * 2 ^ digits := by
      rw [← Nat.pow_add]
      exact Nat.pow_le_pow_right Nat.two_pos (by omega)
    exact Nat.lt_of_mul_lt_mul_left (Nat.lt_of_lt_of_le hlt hbound)
  · obtain rfl := Nat.le_antisymm hu hge
    exact two_pow h (k + 1)

/-- A remainder ends in as many zeros as both numbers do, and is too small for more digits. -/
theorem mod (hu : Significant digits u) (hv : Significant digits v) :
    Significant digits (u % v) := by
  obtain ⟨m, e, hm, rfl⟩ := hu
  obtain ⟨n, f, hn, rfl⟩ := hv
  rcases Nat.eq_zero_or_pos n with rfl | hpos
  · rw [Nat.zero_mul, Nat.mod_zero]
    exact ⟨m, e, hm, rfl⟩
  have hmodlt : m * 2 ^ e % (n * 2 ^ f) < n * 2 ^ f :=
    Nat.mod_lt _ (Nat.mul_pos hpos (Nat.two_pow_pos f))
  rcases Nat.le_total e f with hef | hfe
  · have hdvd : 2 ^ e ∣ m * 2 ^ e % (n * 2 ^ f) :=
      (Nat.dvd_mod_iff (Nat.dvd_mul_left_of_dvd (Nat.pow_dvd_pow 2 hef) n)).mpr
        (Nat.dvd_mul_left _ m)
    obtain ⟨c, hc⟩ := hdvd
    refine ⟨c, e, ?_, hc.trans (Nat.mul_comm _ _)⟩
    have hle : 2 ^ e * c ≤ 2 ^ e * m := by
      rw [← hc, Nat.mul_comm (2 ^ e) m]
      exact Nat.mod_le _ _
    exact Nat.lt_of_le_of_lt (Nat.le_of_mul_le_mul_left hle (Nat.two_pow_pos e)) hm
  · have hdvd : 2 ^ f ∣ m * 2 ^ e % (n * 2 ^ f) :=
      (Nat.dvd_mod_iff (Nat.dvd_mul_left _ n)).mpr
        (Nat.dvd_mul_left_of_dvd (Nat.pow_dvd_pow 2 hfe) m)
    obtain ⟨c, hc⟩ := hdvd
    refine ⟨c, f, ?_, hc.trans (Nat.mul_comm _ _)⟩
    rw [hc, Nat.mul_comm n] at hmodlt
    exact Nat.lt_trans (Nat.lt_of_mul_lt_mul_left hmodlt) hn

end Significant

/-! ## Rounding to significant digits -/

/-- The step of the grid that a quotient is rounded on. -/
def roundingStep (digits num den : Nat) : Nat := 2 ^ ((num / den).log2 + 1 - digits)

variable {digits num den u : Nat}

/-- Rounding to some digits is rounding to a whole number of steps. -/
theorem roundSignificant_eq (digits num den : Nat) :
    roundSignificant digits num den =
      roundDiv num (den * roundingStep digits num den) * roundingStep digits num den := rfl

theorem roundingStep_pos (digits num den : Nat) : 0 < roundingStep digits num den :=
  Nat.two_pow_pos _

/-- Rounding does not pass a number on the grid from below. -/
theorem roundSignificant_le_of_dvd (hden : 0 < den) (hgrid : roundingStep digits num den ∣ u)
    (h : num ≤ u * den) : roundSignificant digits num den ≤ u := by
  have hstep := roundingStep_pos digits num den
  rw [roundSignificant_eq]
  obtain ⟨m, rfl⟩ := hgrid
  rw [Nat.mul_comm _ m] at h ⊢
  apply Nat.mul_le_mul_right
  apply roundDiv_le (Nat.mul_pos hden hstep)
  rw [Nat.mul_comm den, ← Nat.mul_assoc]
  exact h

/-- Rounding does not pass a number on the grid from above. -/
theorem le_roundSignificant_of_dvd (hden : 0 < den) (hgrid : roundingStep digits num den ∣ u)
    (h : u * den ≤ num) : u ≤ roundSignificant digits num den := by
  have hstep := roundingStep_pos digits num den
  rw [roundSignificant_eq]
  obtain ⟨m, rfl⟩ := hgrid
  rw [Nat.mul_comm _ m] at h ⊢
  apply Nat.mul_le_mul_right
  apply le_roundDiv (Nat.mul_pos hden hstep)
  rw [Nat.mul_comm den, ← Nat.mul_assoc]
  exact h

/-- Significant numbers are on the grid if they are not smaller than the quotient in size. -/
theorem roundingStep_dvd (hdigits : 0 < digits) (hu : Significant digits u)
    (h : num / den = 0 ∨ 2 ^ (num / den).log2 ≤ u) : roundingStep digits num den ∣ u := by
  rcases h with hzero | hle
  · have hstep : roundingStep digits num den = 1 := by
      rw [roundingStep, hzero, Nat.log2_zero, Nat.sub_eq_zero_of_le (by omega), Nat.pow_zero]
    rw [hstep]
    exact Nat.one_dvd u
  · exact hu.dvd hle

/-- A value with so few digits that is no less than the quotient is no less than the rounded one. -/
theorem roundSignificant_le (hdigits : 0 < digits) (hden : 0 < den) (hu : Significant digits u)
    (h : num ≤ u * den) : roundSignificant digits num den ≤ u := by
  apply roundSignificant_le_of_dvd hden _ h
  apply roundingStep_dvd hdigits hu
  rcases Nat.eq_zero_or_pos (num / den) with hzero | hpos
  · exact .inl hzero
  · right
    have hquotient : num / den ≤ u := Nat.div_le_of_le_mul (Nat.mul_comm u den ▸ h)
    exact Nat.le_trans (Nat.log2_self_le (Nat.ne_of_gt hpos)) hquotient

/-- A value with so few digits that is no greater than the quotient is no greater than the rounded
one. -/
theorem le_roundSignificant (hdigits : 0 < digits) (hden : 0 < den) (hu : Significant digits u)
    (h : u * den ≤ num) : u ≤ roundSignificant digits num den := by
  rcases Nat.eq_zero_or_pos (num / den) with hzero | hpos
  · exact le_roundSignificant_of_dvd hden (roundingStep_dvd hdigits hu (.inl hzero)) h
  rcases Nat.lt_or_ge u (2 ^ (num / den).log2) with hsmall | hlarge
  · -- The quotient is above a power of two that is above the number.
    have hpower : 2 ^ (num / den).log2 * den ≤ num :=
      (Nat.le_div_iff_mul_le hden).mp (Nat.log2_self_le (Nat.ne_of_gt hpos))
    have hgrid : roundingStep digits num den ∣ 2 ^ (num / den).log2 :=
      roundingStep_dvd hdigits (.two_pow hdigits _) (.inr (Nat.le_refl _))
    exact Nat.le_trans (Nat.le_of_lt hsmall) (le_roundSignificant_of_dvd hden hgrid hpower)
  · exact le_roundSignificant_of_dvd hden (roundingStep_dvd hdigits hu (.inr hlarge)) h

/-- What is rounded to some digits has no more than these. -/
theorem significant_roundSignificant (hdigits : 0 < digits) (hden : 0 < den) :
    Significant digits (roundSignificant digits num den) := by
  have hon : 2 ^ ((num / den).log2 + 1 - digits) ∣ roundSignificant digits num den :=
    Nat.dvd_mul_left ..
  apply Significant.of_dvd hdigits hon
  apply roundSignificant_le hdigits hden (.two_pow hdigits _)
  have hquotient : num / den < 2 ^ ((num / den).log2 + 1) := Nat.lt_log2_self
  exact Nat.le_of_lt ((Nat.div_lt_iff_lt_mul hden).mp hquotient)

end Marquee
