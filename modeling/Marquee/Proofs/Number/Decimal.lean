import Marquee.Number.Decimal
import Marquee.Proofs.Number.Rounding
import Marquee.Proofs.Text.Utf8
import Mathlib.Algebra.Order.Ring.Nat
import Mathlib.Data.Nat.Digits.Defs

/-!
# Decimal text is short and plain

A number below a hundred has exactly two characters when it is written in two digits. A count with
places after the point has no more characters than the format fills up to, unless the part before
the point needs more. All of these characters are ASCII.
-/

namespace Marquee.Decimal

open Text (Ascii)

/-! ## Characters -/

theorem ascii_toDigits (n : Nat) : Ascii (Nat.toDigits 10 n) := by
  intro c hc
  have hdigit := Char.isDigit_iff_toNat.mp (Nat.isDigit_of_mem_toDigits (by decide) (by decide) hc)
  have hnine : '9'.toNat = 57 := rfl
  omega

theorem ascii_padded {digits : List Char} (h : Ascii digits) (width : Nat) :
    Ascii (padded width digits) := by
  refine Ascii.append (fun c hc => ?_) h
  obtain rfl := List.eq_of_mem_replicate hc
  decide

theorem ascii_twoDigits (n : Nat) : Ascii (twoDigits n) := ascii_padded (ascii_toDigits n) 2

theorem length_padded (width : Nat) (digits : List Char) :
    (padded width digits).length = max width digits.length := by
  simp only [padded, List.length_append, List.length_replicate]
  omega

/-! ## Two digits -/

theorem twoDigits_eq {n : Nat} (h : n < 100) :
    twoDigits n = [Nat.digitChar (n / 10), Nat.digitChar (n % 10)] := by
  rw [twoDigits, Nat.toDigits_eq_if (by decide)]
  split
  · rename_i hsmall
    rw [Nat.div_eq_of_lt hsmall, Nat.mod_eq_of_lt hsmall]
    rfl
  · rw [Nat.toDigits_of_lt_base (by omega)]
    rfl

theorem toUInt8_digitChar {d : Nat} (h : d < 10) :
    (Nat.digitChar d).toUInt8 = 0x30 + UInt8.ofNat d := by
  revert d
  decide

/-- The bytes of a byte in two digits. -/
theorem map_twoDigits {b : UInt8} (h : b.toNat < 100) :
    (twoDigits b.toNat).map Char.toUInt8 = [0x30 + b / 10, 0x30 + b % 10] := by
  have htens : UInt8.ofNat (b.toNat / 10) = b / 10 := by
    rw [UInt8.ofNat_div b.toNat_lt (by decide), UInt8.ofNat_toNat]
    rfl
  have hones : UInt8.ofNat (b.toNat % 10) = b % 10 := by
    rw [UInt8.ofNat_mod b.toNat_lt (by decide), UInt8.ofNat_toNat]
    rfl
  rw [twoDigits_eq h, List.map_cons, List.map_cons, List.map_nil, toUInt8_digitChar (by omega),
    toUInt8_digitChar (Nat.mod_lt _ (by decide)), htens, hones]

/-! ## Places after the point -/

namespace FixedFormat

variable {format : FixedFormat} {count : Nat}

/-- A magnitude that is not above a whole number is not counted above it either. -/
theorem count_le {f : BinaryFormat} {units bound : Nat} (h : units ≤ bound * 2 ^ f.grain) :
    format.count f units ≤ bound * 10 ^ format.places := by
  apply roundDiv_le (Nat.two_pow_pos _)
  calc units * 10 ^ format.places
      ≤ bound * 2 ^ f.grain * 10 ^ format.places := Nat.mul_le_mul_right _ h
    _ = bound * 10 ^ format.places * 2 ^ f.grain := Nat.mul_right_comm ..

/-- A count that has this many digits before the point has no more bytes than these and the places
need, or than the format fills up to. -/
theorem byteCount_write_le {digits : Nat} (hdigits : 0 < digits) (hplaces : 0 < format.places)
    (h : count < 10 ^ (digits + format.places)) :
    Text.byteCount (format.write count) ≤ max format.width (digits + 1 + format.places) := by
  have hscale : 0 < 10 ^ format.places := Nat.pow_pos (by decide)
  have hwhole : (Nat.toDigits 10 (count / 10 ^ format.places)).length ≤ digits := by
    rw [Nat.length_toDigits_le_iff (by decide) hdigits, Nat.div_lt_iff_lt_mul hscale, ← Nat.pow_add]
    exact h
  have hrest : (Nat.toDigits 10 (count % 10 ^ format.places)).length ≤ format.places := by
    rw [Nat.length_toDigits_le_iff (by decide) hplaces]
    exact Nat.mod_lt _ hscale
  have hpoint : Ascii ['.'] := by
    intro c hc
    obtain rfl := List.mem_singleton.mp hc
    decide
  have hascii := ascii_padded ((ascii_toDigits (count / 10 ^ format.places)).append
    (hpoint.append (ascii_padded (ascii_toDigits (count % 10 ^ format.places)) format.places)))
    format.width
  have hbytes := Text.byteCount_of_ascii hascii
  simp only [length_padded, List.length_append, List.length_singleton] at hbytes
  change Text.byteCount (format.write count) = _ at hbytes
  omega

end FixedFormat

end Marquee.Decimal
