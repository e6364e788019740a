import Marquee.Picture.Raster

/-!
# Images in bytes

On the machine an image has one byte for each column, whatever its height, and the height is a
number beside them. `PackedImage` is an image in this form: row `r` of a column is bit `r` of its
byte. Pixels are counted and images are compared by whole bytes, so that a bit past the height would
count as well, although it is never read.

An image of either form may be changed pixel by pixel and by drawing, again and again; `ImageEdit`
is one such change as data.
-/

namespace Marquee

/-! ## Changes -/

/-- A change of an image. -/
inductive ImageEdit
  /-- lights or darkens one pixel -/
  | set (x y : Nat) (on : Bool)
  /-- draws pixels one after another -/
  | draw (pixels : List Raster.Pixel)
deriving DecidableEq

/-- The pixels that a change writes, in order. -/
def ImageEdit.writes : ImageEdit → List Raster.Pixel
  | .set x y on => [⟨x, y, on⟩]
  | .draw pixels => pixels

namespace Raster

/-- What was written last to a place, if anything was. -/
def lastWritten? (pixels : List Pixel) (x y : Int) : Option Bool :=
  (pixels.reverse.find? fun p => p.x = x ∧ p.y = y).map Pixel.on

variable {w h : Nat}

/-- The image after a change. -/
def edit (image : Raster w h) : ImageEdit → Raster w h
  | .set x y on => image.set x y on
  | .draw pixels => image.draw pixels

/-- The image after a series of changes. -/
def editAll (image : Raster w h) (edits : List ImageEdit) : Raster w h := edits.foldl edit image

end Raster

/-! ## Images in bytes -/

/-- An image with one byte for each column. -/
structure PackedImage (width : Nat) where
  /-- the columns from left to right, the top row in the lowest bit -/
  columns : Vector UInt8 width
  /-- the number of rows -/
  height : Nat
deriving DecidableEq

namespace PackedImage

variable {w : Nat}

/-- The dark image of a wanted height, which is cut to the tallest one possible. -/
def new (w wanted : Nat) : PackedImage w :=
  ⟨Vector.replicate w 0, min wanted maxImageHeight⟩

/-- The byte in which one row is lit. -/
def rowMask (y : Nat) : UInt8 := 1 <<< UInt8.ofNat y

/-- The pixel in a column and a row; dark outside the image. -/
def get (image : PackedImage w) (x y : Nat) : Bool :=
  if y < image.height then
    match image.columns[x]? with
    | some column => column &&& rowMask y != 0
    | none => false
  else false

/-- Lights or darkens a pixel; outside the image nothing changes. -/
def set (image : PackedImage w) (x y : Nat) (on : Bool) : PackedImage w :=
  if image.height ≤ y then image
  else if inside : x < w then
    let column := image.columns[x]
    let written := if on then column ||| rowMask y else column &&& ~~~rowMask y
    { image with columns := image.columns.set x written }
  else image

/-- The number of bits that are set in a byte. -/
def countOnes (byte : UInt8) : Nat := (List.range 8).countP byte.toBitVec.getLsbD

/-- The number of lit pixels, added up in a word. -/
def lit (image : PackedImage w) : UInt32 :=
  image.columns.toList.foldl (fun total column => total + UInt32.ofNat (countOnes column)) 0

instance : Picture (PackedImage w) where
  width _ := w
  height := PackedImage.height
  get := get

/-- Draws one pixel if it lies inside. -/
def plot (image : PackedImage w) (p : Raster.Pixel) : PackedImage w :=
  if p.x < 0 ∨ p.y < 0 then image else image.set p.x.toNat p.y.toNat p.on

/-- Draws pixels one after another. -/
def draw (image : PackedImage w) (pixels : List Raster.Pixel) : PackedImage w :=
  pixels.foldl plot image

/-- The image after a change. -/
def edit (image : PackedImage w) : ImageEdit → PackedImage w
  | .set x y on => image.set x y on
  | .draw pixels => image.draw pixels

/-- The image after a series of changes. -/
def editAll (image : PackedImage w) (edits : List ImageEdit) : PackedImage w :=
  edits.foldl edit image

/-! ## Bitmaps and images -/

/-- Writes the rows of a column of a compiled bitmap. The lowest bit of the byte belongs to no
row. -/
def setColumn (image : PackedImage w) (x : Nat) (byte : UInt8) : PackedImage w :=
  (List.range panelHeight).foldl
    (fun image row => image.set x row (byte &&& rowMask (7 - row) != 0)) image

/-- The image that the first columns of a compiled bitmap show. -/
def ofBitmap (bytes : List UInt8) : PackedImage panelWidth :=
  (bytes.take panelWidth).zipIdx.foldl (fun image (byte, x) => image.setColumn x byte)
    (new panelWidth panelHeight)

/-- The image as a bitmap for a panel. -/
def toBitmap (image : PackedImage panelWidth) : Bitmap := windowAt image 0 0

end PackedImage

end Marquee
