import Marquee.Number.Decimal
import Marquee.Toml.Value

/-!
# TOML scalars

Texts in quotation marks and apostrophes, in one line or several, and the words without quotes:
truth values, whole numbers in four bases, numbers with a point or an exponent, dates and times.
A reader takes characters from the front and answers with what it read and what is left.
-/

namespace Marquee.Toml

/-! ## Characters -/

/-- A character that may stand in a text or a comment: no control character but the tab. -/
def isPlain (c : Char) : Bool := c == '\t' || (0x20 ≤ c.toNat && c.toNat != 0x7f)

/-- Spaces and tabs. -/
def isSpace (c : Char) : Bool := c == ' ' || c == '\t'

/-- The rest after spaces and tabs. -/
def skipSpace (cs : List Char) : List Char := cs.dropWhile isSpace

/-- The rest after one line end. -/
def lineEnd? : List Char → Option (List Char)
  | '\n' :: rest => some rest
  | '\r' :: '\n' :: rest => some rest
  | _ => none

/-- The rest after a line end, if there is one. -/
def skipLineEnd (cs : List Char) : List Char := (lineEnd? cs).getD cs

/-- The value of a digit in a base up to sixteen. -/
def digitOf? (base : Nat) (c : Char) : Option Nat :=
  let value :=
    if '0' ≤ c ∧ c ≤ '9' then some (c.toNat - '0'.toNat)
    else if 'a' ≤ c ∧ c ≤ 'f' then some (c.toNat - 'a'.toNat + 10)
    else if 'A' ≤ c ∧ c ≤ 'F' then some (c.toNat - 'A'.toNat + 10)
    else none
  value.filter (· < base)

/-- The value of digits in a base. -/
def digitsValue? (base : Nat) (cs : List Char) : Option Nat :=
  cs.foldlM (fun n c => (digitOf? base c).map (base * n + ·)) 0

/-! ## Texts -/

/-- The character with a number in hexadecimal digits. -/
def codePoint? (digits : List Char) : Option Char :=
  match digitsValue? 16 digits with
  | none => none
  | some n => if n.isValidChar then some (Char.ofNat n) else none

/-- The character that the part after a backslash stands for, and the rest. -/
def escape? : List Char → Option (Char × List Char)
  | 'b' :: rest => some ('\x08', rest)
  | 't' :: rest => some ('\t', rest)
  | 'n' :: rest => some ('\n', rest)
  | 'f' :: rest => some ('\x0c', rest)
  | 'r' :: rest => some ('\r', rest)
  | '"' :: rest => some ('"', rest)
  | '\\' :: rest => some ('\\', rest)
  | 'u' :: rest =>
    if rest.length < 4 then none else (codePoint? (rest.take 4)).map fun c => (c, rest.drop 4)
  | 'U' :: rest =>
    if rest.length < 8 then none else (codePoint? (rest.take 8)).map fun c => (c, rest.drop 8)
  | _ => none

/-- The rest after spaces, tabs and line ends. -/
def skipBlankLines : (fuel : Nat) → List Char → List Char
  | 0, cs => cs
  | fuel + 1, cs =>
    match lineEnd? (skipSpace cs) with
    | some rest => skipBlankLines fuel rest
    | none => skipSpace cs

/-- Puts a character in front of what a reader reads next. -/
def push (c : Char) (next : Option (List Char × List Char)) : Option (List Char × List Char) :=
  next.map fun (text, rest) => (c :: text, rest)

/-- A text in quotation marks on one line, after the first mark. -/
def basicText : (fuel : Nat) → List Char → Option (List Char × List Char)
  | 0, _ => none
  | _, [] => none
  | _, '"' :: rest => some ([], rest)
  | fuel + 1, '\\' :: rest =>
    match escape? rest with
    | some (c, rest) => push c (basicText fuel rest)
    | none => none
  | fuel + 1, c :: rest => if isPlain c then push c (basicText fuel rest) else none

/-- A text in apostrophes on one line, after the first one. -/
def literalText : List Char → Option (List Char × List Char)
  | [] => none
  | '\'' :: rest => some ([], rest)
  | c :: rest => if isPlain c then push c (literalText rest) else none

/-- The end of a text over several lines, at a run of its marks: up to two marks more than three
belong to the text. -/
def closing? (mark : Char) (cs : List Char) : Option (List Char × List Char) :=
  let run := (cs.takeWhile (· == mark)).length
  if run < 3 then none
  else
    let inside := min (run - 3) 2
    some (List.replicate inside mark, cs.drop (inside + 3))

/-- A text over several lines in quotation marks, after the first line end. A backslash at the end
of a line takes away the line end and all blanks after it. -/
def basicLines : (fuel : Nat) → List Char → Option (List Char × List Char)
  | 0, _ => none
  | _, [] => none
  | fuel + 1, '"' :: rest =>
    match closing? '"' ('"' :: rest) with
    | some done => some done
    | none => push '"' (basicLines fuel rest)
  | fuel + 1, '\\' :: rest =>
    match escape? rest with
    | some (c, rest) => push c (basicLines fuel rest)
    | none =>
      match lineEnd? (skipSpace rest) with
      | some rest => basicLines fuel (skipBlankLines fuel rest)
      | none => none
  | fuel + 1, '\r' :: '\n' :: rest => push '\r' (push '\n' (basicLines fuel rest))
  | fuel + 1, c :: rest =>
    if isPlain c || c == '\n' then push c (basicLines fuel rest) else none

/-- A text over several lines in apostrophes, after the first line end. -/
def literalLines : (fuel : Nat) → List Char → Option (List Char × List Char)
  | 0, _ => none
  | _, [] => none
  | fuel + 1, '\'' :: rest =>
    match closing? '\'' ('\'' :: rest) with
    | some done => some done
    | none => push '\'' (literalLines fuel rest)
  | fuel + 1, '\r' :: '\n' :: rest => push '\r' (push '\n' (literalLines fuel rest))
  | fuel + 1, c :: rest =>
    if isPlain c || c == '\n' then push c (literalLines fuel rest) else none

/-- A text, from its first mark on; over several lines only where that is allowed. -/
def text? (lines : Bool) : List Char → Option (String × List Char)
  | '"' :: '"' :: '"' :: rest =>
    if lines then
      (basicLines (rest.length + 1) (skipLineEnd rest)).map fun (t, rest) => (String.ofList t, rest)
    else none
  | '"' :: rest => (basicText (rest.length + 1) rest).map fun (t, rest) => (String.ofList t, rest)
  | '\'' :: '\'' :: '\'' :: rest =>
    if lines then
      (literalLines (rest.length + 1) (skipLineEnd rest)).map fun (t, rest) =>
        (String.ofList t, rest)
    else none
  | '\'' :: rest => (literalText rest).map fun (t, rest) => (String.ofList t, rest)
  | _ => none

/-! ## Numbers -/

/-- Digits without the underscores between them. -/
def joined? (base : Nat) : List Char → Option (List Char)
  | [] => none
  | [c] => (digitOf? base c).map fun _ => [c]
  | c :: '_' :: rest => (digitOf? base c).bind fun _ => (joined? base rest).map (c :: ·)
  | c :: rest => (digitOf? base c).bind fun _ => (joined? base rest).map (c :: ·)

/-- The digits of a decimal number without zeros in front. -/
def decimalDigits? (cs : List Char) : Option (List Char) :=
  (joined? 10 cs).filter fun digits => digits.length == 1 || digits.head? != some '0'

/-- The bounds of what can be read as a whole number. -/
def integerBound : Nat := Nat.pow 2 128

/-- A whole number. -/
def integer? (word : List Char) : Option Int :=
  let value : Option Int :=
    match word with
    | '0' :: 'x' :: rest => ((joined? 16 rest).bind (digitsValue? 16)).map Int.ofNat
    | '0' :: 'o' :: rest => ((joined? 8 rest).bind (digitsValue? 8)).map Int.ofNat
    | '0' :: 'b' :: rest => ((joined? 2 rest).bind (digitsValue? 2)).map Int.ofNat
    | '-' :: rest => ((decimalDigits? rest).bind (digitsValue? 10)).map fun n => -Int.ofNat n
    | '+' :: rest => ((decimalDigits? rest).bind (digitsValue? 10)).map Int.ofNat
    | rest => ((decimalDigits? rest).bind (digitsValue? 10)).map Int.ofNat
  value.filter fun n => -((integerBound / 2 : Nat) : Int) ≤ n && n < integerBound

/-- Decimal digits with a scale of ten, rounded; none if the number is too large. -/
def scaled? (negative : Bool) (digits : List Char) (exponent : Int) : Option Double :=
  match digitsValue? 10 digits with
  | none => none
  | some 0 => some (.finite negative 0)
  | some n =>
    let top := exponent + (Nat.toDigits 10 n).length
    if 400 < top then none
    else if top < -400 then some (.finite negative 0)
    else
      let value :=
        if exponent < 0 then Binary.ofFraction .double negative n (Nat.pow 10 exponent.natAbs)
        else Binary.ofFraction .double negative (n * Nat.pow 10 exponent.natAbs) 1
      if value.isFinite then some value else none

/-- The digits after an exponent mark, with an optional sign. -/
def exponent? (cs : List Char) : Option Int :=
  match cs with
  | '-' :: rest => ((joined? 10 rest).bind (digitsValue? 10)).map fun n => -Int.ofNat n
  | '+' :: rest => ((joined? 10 rest).bind (digitsValue? 10)).map Int.ofNat
  | rest => ((joined? 10 rest).bind (digitsValue? 10)).map Int.ofNat

/-- A number with a point or an exponent, after the sign. -/
def magnitude? (negative : Bool) (word : List Char) : Option Double := do
  let mantissa := word.takeWhile fun c => c != 'e' && c != 'E'
  let exponent ← match word.dropWhile fun c => c != 'e' && c != 'E' with
    | [] => if word.contains '.' then some 0 else none
    | _ :: rest => exponent? rest
  let whole ← decimalDigits? (mantissa.takeWhile (· != '.'))
  let places ← match mantissa.dropWhile (· != '.') with
    | [] => some []
    | _ :: rest => joined? 10 rest
  scaled? negative (whole ++ places) (exponent - places.length)

/-- A number with a point or an exponent, or one of the words for what is no finite number. -/
def float? (word : List Char) : Option Double :=
  let (negative, rest) := match word with
    | '-' :: rest => (true, rest)
    | '+' :: rest => (false, rest)
    | rest => (false, rest)
  if rest = ['i', 'n', 'f'] then some (.infinite negative)
  else if rest = ['n', 'a', 'n'] then some .nan
  else magnitude? negative rest

/-! ## Dates and times -/

/-- Two digits as a number up to a bound. -/
def pair? (most : Nat) (a b : Char) : Option Nat := do
  let n := 10 * (← Numeral.digit? a) + (← Numeral.digit? b)
  if n ≤ most then some n else none

/-- The number of days of a month. -/
def daysIn (year month : Nat) : Nat :=
  if month = 2 then
    if year % 4 = 0 ∧ (year % 100 ≠ 0 ∨ year % 400 = 0) then 29 else 28
  else if month ∈ [4, 6, 9, 11] then 30
  else 31

/-- The rest after a date. -/
def date? : List Char → Option (List Char)
  | a :: b :: c :: d :: '-' :: e :: f :: '-' :: g :: h :: rest => do
    let year := 100 * (← pair? 99 a b) + (← pair? 99 c d)
    let month ← pair? 12 e f
    let day ← pair? 31 g h
    if 1 ≤ month ∧ 1 ≤ day ∧ day ≤ daysIn year month then some rest else none
  | _ => none

/-- The rest after a time of day. -/
def time? : List Char → Option (List Char)
  | a :: b :: ':' :: c :: d :: ':' :: e :: f :: rest => do
    let _ ← pair? 23 a b
    let _ ← pair? 59 c d
    let _ ← pair? 60 e f
    match rest with
    | '.' :: g :: rest => do
      let _ ← Numeral.digit? g
      some (rest.dropWhile Char.isDigit)
    | rest => some rest
  | _ => none

/-- An offset from universal time fills the rest. -/
def isOffset : List Char → Bool
  | ['Z'] | ['z'] => true
  | sign :: [a, b, ':', c, d] =>
    (sign == '+' || sign == '-') && (pair? 23 a b).isSome && (pair? 59 c d).isSome
  | _ => false

/-- The word is a date, a time, or a date with a time and perhaps an offset. -/
def isMoment (word : List Char) : Bool :=
  match date? word with
  | some [] => true
  | some (mark :: rest) =>
    (mark == 'T' || mark == 't' || mark == ' ') &&
      match time? rest with
      | some [] => true
      | some rest => isOffset rest
      | none => false
  | none => time? word == some []

/-! ## Words -/

/-- The word ends before this character. -/
def endsWord (c : Char) : Bool :=
  isSpace c || c == '\n' || c == '\r' || c == ',' || c == ']' || c == '\x7d' || c == '#'

/-- A value without quotes or brackets. A date may be followed by one space and a time. -/
def word? (cs : List Char) : Option (Toml × List Char) :=
  let first := cs.takeWhile (!endsWord ·)
  let rest := cs.dropWhile (!endsWord ·)
  let (word, rest) :=
    match date? first, rest with
    | some [], ' ' :: c :: more =>
      if c.isDigit then
        let second := (c :: more).takeWhile (!endsWord ·)
        (first ++ ' ' :: second, (c :: more).dropWhile (!endsWord ·))
      else (first, rest)
    | _, _ => (first, rest)
  if word = ['t', 'r', 'u', 'e'] then some (boolean true, rest)
  else if word = ['f', 'a', 'l', 's', 'e'] then some (boolean false, rest)
  else
    match integer? word with
    | some n => some (integer n, rest)
    | none =>
      match float? word with
      | some v => some (float v, rest)
      | none => if isMoment word then some (moment, rest) else none

end Marquee.Toml
