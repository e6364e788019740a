/-!
# Binary floating point

Every rounded number of the program is the nearest one on some grid, and of two equally near ones
the even one. `roundDiv` is that rule for a quotient of natural numbers; `roundSignificant` keeps
a number of significant binary digits, on a grid that is never finer than one.

`Binary f` holds the values of a binary floating point format: magnitudes are whole numbers of the
smallest positive one, so that values are exact and their arithmetic is arithmetic on natural
numbers. Sums, products and quotients are rounded once, to nearest with ties to even; a remainder
is exact. Zeros keep their sign, and what has no value is `nan`, which compares to nothing.
-/

namespace Marquee

/-! ## Rounding to nearest, ties to even -/

/-- The quotient rounded to the nearest natural number, a half to the even one. -/
def roundDiv (num den : Nat) : Nat :=
  let whole := num / den
  let twice := 2 * (num % den)
  if den < twice ∨ (twice = den ∧ whole % 2 = 1) then whole + 1 else whole

/-- The quotient rounded to a natural number with at most `digits` significant binary digits. -/
def roundSignificant (digits num den : Nat) : Nat :=
  let step := Nat.pow 2 ((num / den).log2 + 1 - digits)
  roundDiv num (den * step) * step

/-! ## Formats and values -/

/-- A binary floating point format. -/
structure BinaryFormat where
  /-- significant binary digits of a large enough value -/
  precision : Nat
  /-- bits of the stored exponent -/
  exponentBits : Nat
deriving DecidableEq

namespace BinaryFormat

/-- Thirty-two bits. -/
def single : BinaryFormat := ⟨24, 8⟩

/-- Sixty-four bits. -/
def double : BinaryFormat := ⟨53, 11⟩

/-- The smallest positive value is two to the power of minus this number. -/
def grain (f : BinaryFormat) : Nat := Nat.pow 2 (f.exponentBits - 1) + f.precision - 3

/-- Finite magnitudes are below two to this power, in smallest values. -/
def ceiling (f : BinaryFormat) : Nat := Nat.pow 2 f.exponentBits - 3 + f.precision

end BinaryFormat

/-- A value of a format. -/
inductive Binary (f : BinaryFormat)
  /-- a sign and a number of smallest values -/
  | finite (negative : Bool) (units : Nat)
  /-- past the largest finite value -/
  | infinite (negative : Bool)
  /-- no value -/
  | nan
deriving DecidableEq

/-- Values of thirty-two bits. -/
abbrev Single := Binary .single

/-- Values of sixty-four bits. -/
abbrev Double := Binary .double

namespace Binary

variable {f g : BinaryFormat}

/-- Zero with a positive sign. -/
def zero : Binary f := finite false 0

/-! ## Rounding -/

/-- A quotient in smallest values, rounded to the format. -/
def round (f : BinaryFormat) (negative : Bool) (num den : Nat) : Binary f :=
  let units := roundSignificant f.precision num den
  if units < Nat.pow 2 f.ceiling then finite negative units else infinite negative

/-- A fraction rounded to the format. -/
def ofFraction (f : BinaryFormat) (negative : Bool) (num den : Nat) : Binary f :=
  round f negative (num * Nat.pow 2 f.grain) den

/-- A natural number rounded to the format. -/
def ofNat (f : BinaryFormat) (n : Nat) : Binary f := ofFraction f false n 1

/-- The value rounded to another format. -/
def convert (g : BinaryFormat) : Binary f → Binary g
  | finite negative units => ofFraction g negative units (Nat.pow 2 f.grain)
  | infinite negative => infinite negative
  | nan => nan

/-! ## Arithmetic -/

/-- The magnitude with its sign. -/
def signed (negative : Bool) (units : Nat) : Int :=
  if negative then -(units : Int) else units

/-- The sum. A sum of zero is positive unless both parts are negative zeros. -/
def add : Binary f → Binary f → Binary f
  | nan, _ | _, nan => nan
  | infinite a, infinite b => if a = b then infinite a else nan
  | infinite a, finite .. | finite .., infinite a => infinite a
  | finite a m, finite b n =>
    let sum := signed a m + signed b n
    if sum = 0 then finite (a && b) 0 else round f (decide (sum < 0)) sum.natAbs 1

/-- The product. -/
def mul : Binary f → Binary f → Binary f
  | nan, _ | _, nan => nan
  | infinite a, infinite b => infinite (a != b)
  | infinite a, finite b n | finite b n, infinite a => if n = 0 then nan else infinite (a != b)
  | finite a m, finite b n => round f (a != b) (m * n) (Nat.pow 2 f.grain)

/-- The quotient. -/
def div : Binary f → Binary f → Binary f
  | nan, _ | _, nan => nan
  | infinite _, infinite _ => nan
  | infinite a, finite b _ => infinite (a != b)
  | finite a _, infinite b => finite (a != b) 0
  | finite a m, finite b n =>
    if n = 0 then (if m = 0 then nan else infinite (a != b))
    else round f (a != b) (m * Nat.pow 2 f.grain) n

/-- The remainder of the division toward zero, which has the sign of the dividend. -/
def rem : Binary f → Binary f → Binary f
  | nan, _ | _, nan => nan
  | infinite _, _ => nan
  | finite a m, infinite _ => finite a m
  | finite a m, finite _ n => if n = 0 then nan else finite a (m % n)

instance : Add (Binary f) := ⟨add⟩
instance : Mul (Binary f) := ⟨mul⟩
instance : Div (Binary f) := ⟨div⟩
instance : Mod (Binary f) := ⟨rem⟩

/-! ## Comparisons -/

/-- The value is a number and finite. -/
def isFinite : Binary f → Bool
  | finite .. => true
  | _ => false

/-- The first value is at most the second one; false if one of them is no number. -/
def le : Binary f → Binary f → Bool
  | nan, _ | _, nan => false
  | infinite a, infinite b => a || !b
  | infinite a, finite .. => a
  | finite .., infinite b => !b
  | finite a m, finite b n => decide (signed a m ≤ signed b n)

/-- The first value is less than the second one; false if one of them is no number. -/
def lt : Binary f → Binary f → Bool
  | nan, _ | _, nan => false
  | a, b => !le b a

/-- The whole part, zero for what is negative or no number, and cut to the greatest number of
`bits` bits. -/
def truncate (bits : Nat) : Binary f → Nat
  | finite false units => min (units / Nat.pow 2 f.grain) (Nat.pow 2 bits - 1)
  | infinite false => Nat.pow 2 bits - 1
  | _ => 0

/-! ## Stored forms -/

/-- The value that is stored in these bits: a sign, the exponent, the digits. -/
def ofBits (f : BinaryFormat) (bits : Nat) : Binary f :=
  let span := Nat.pow 2 (f.precision - 1)
  let top := Nat.pow 2 f.exponentBits - 1
  let digits := bits % span
  let exponent := bits / span % Nat.pow 2 f.exponentBits
  let negative := bits / span / Nat.pow 2 f.exponentBits % 2 = 1
  if exponent = top then (if digits = 0 then infinite negative else nan)
  else if exponent = 0 then finite negative digits
  else finite negative ((span + digits) * Nat.pow 2 (exponent - 1))

/-- The bits that store a value. For what has no value the first digit is set. -/
def toBits : Binary f → Nat
  | finite negative units =>
    let span := Nat.pow 2 (f.precision - 1)
    let sign := if negative then span * Nat.pow 2 f.exponentBits else 0
    if units < span then sign + units
    else
      let shift := units.log2 + 1 - f.precision
      sign + (shift + 1) * span + (units / Nat.pow 2 shift - span)
  | infinite negative =>
    let span := Nat.pow 2 (f.precision - 1)
    (if negative then span * Nat.pow 2 f.exponentBits else 0) +
      (Nat.pow 2 f.exponentBits - 1) * span
  | nan =>
    let span := Nat.pow 2 (f.precision - 1)
    (Nat.pow 2 f.exponentBits - 1) * span + span / 2

end Binary

end Marquee
