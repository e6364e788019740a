import Marquee.Bytes
import Marquee.Wire.Command

/-!
# Pictures and panel bitmaps

A panel takes a bitmap as one byte per column, with the top row in the highest bit; its seven rows
leave the lowest bit dark. `columnsAt` reads a window of any picture into that form. It asks only
for pixels inside the picture, and everything beyond is dark.

Each pixel is asked for by a column and a row that are sums. `Survey.columns` is the same reading
with both of them as machine words: it breaks off at a sum that does not fit a word, and every place
that the picture is asked for goes on record.
-/

namespace Marquee

/-- A full panel bitmap: one byte per column. -/
abbrev Bitmap := Bytes panelWidth

/-- A bitmap without a lit pixel. -/
def Bitmap.dark : Bitmap := .replicate panelWidth 0

/-- Columns with lit and dark pixels exchanged, the unused bits included. -/
def complementBytes (bytes : List UInt8) : List UInt8 := bytes.map (~~~ ·)

/-- The bitmap with lit and dark pixels exchanged, the unused bits included. -/
def Bitmap.complement (bitmap : Bitmap) : Bitmap := bitmap.map (~~~ ·)

/-- Something that has pixels in columns and rows. -/
class Picture (γ : Type) where
  /-- the number of columns -/
  width : γ → Nat
  /-- the number of rows -/
  height : γ → Nat
  /-- the pixel in a column and a row is lit -/
  get : γ → Nat → Nat → Bool

variable {γ : Type} [Picture γ]

/-- The byte of a column, from whether each of its first `height` rows is lit. -/
def columnByte (height : Nat) (lit : Nat → Bool) : UInt8 :=
  (List.range height).foldl
    (fun byte row => if lit row then byte ||| (1 <<< UInt8.ofNat (7 - row)) else byte) 0

/-- The columns of the panel window whose corner is at column `x` and row `y`, as far as the picture
reaches. -/
def columnsAt (picture : γ) (x y : Nat) : List UInt8 :=
  let columns := min (Picture.width picture - x) panelWidth
  let rows := min (Picture.height picture - y) panelHeight
  (List.range columns).map fun i =>
    columnByte rows fun row => Picture.get picture (x + i) (y + row)

/-- The panel window at column `x` and row `y` as a whole bitmap. -/
def windowAt (picture : γ) (x y : Nat) : Bitmap := .padded panelWidth (columnsAt picture x y)

/-! ## Reading in machine words -/

/-- A place in a picture, named by machine words. -/
structure Place where
  /-- the column -/
  column : UInt64
  /-- the row -/
  row : UInt64
deriving DecidableEq

/-- Work that may break off, with a record of the places that were asked for. -/
abbrev Survey := StateT (List Place) Option

namespace Survey

/-- The sum of two words. The work breaks off if it does not fit a word. -/
def sum (a b : UInt64) : Survey UInt64 := fun asked =>
  if a.toNat + b.toNat < UInt64.size then some (a + b, asked) else none

/-- Asks for one pixel. -/
def ask (picture : γ) (column row : UInt64) : Survey Bool := fun asked =>
  some (Picture.get picture column.toNat row.toNat, asked ++ [⟨column, row⟩])

/-- The byte of a column with one more row. -/
def addRow (picture : γ) (x y : UInt64) (i : Nat) (byte : UInt8) (row : Nat) : Survey UInt8 := do
  let column ← sum x (.ofNat i)
  let line ← sum y (.ofNat row)
  let lit ← ask picture column line
  return if lit then byte ||| (1 <<< UInt8.ofNat (7 - row)) else byte

/-- The columns of the window whose corner is at column `x` and row `y`, as far as the picture
reaches. -/
def columns (picture : γ) (x y : UInt64) : Survey (List UInt8) :=
  let columns := min (Picture.width picture - x.toNat) panelWidth
  let rows := min (Picture.height picture - y.toNat) panelHeight
  (List.range columns).mapM fun i => (List.range rows).foldlM (addRow picture x y i) 0

end Survey

end Marquee
