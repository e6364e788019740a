import Marquee.Picture.Window

/-!
# Monochrome images

`Raster width height` is an image of lit and dark pixels, held column by column with row `r` in
bit `r`. Both sizes are part of the type, so a pixel outside the image has no place to be stored:
reading one answers dark and writing one changes nothing. Two images of the same size are equal
exactly if all their pixels are.
-/

namespace Marquee

/-- The tallest image that can be asked for. -/
def maxImageHeight : Nat := 8

/-- An image of lit and dark pixels. -/
@[ext] structure Raster (width height : Nat) where
  /-- the columns from left to right, the top row in the lowest bit -/
  columns : Vector (BitVec height) width
deriving DecidableEq

/-- An image of the size of a panel. -/
abbrev PanelRaster := Raster panelWidth panelHeight

namespace Raster

variable {w h : Nat}

/-- No pixel is lit. -/
def dark (w h : Nat) : Raster w h := ⟨Vector.replicate w 0⟩

/-- The dark image of a wanted height, which is cut to the tallest one possible. -/
def new (w wanted : Nat) : Raster w (min wanted maxImageHeight) := dark _ _

/-- The pixel in a column and a row; dark outside the image. -/
def get (image : Raster w h) (x y : Nat) : Bool :=
  match image.columns[x]? with
  | some column => column.getLsbD y
  | none => false

/-- Lights or darkens a pixel; outside the image nothing changes. -/
def set (image : Raster w h) (x y : Nat) (on : Bool) : Raster w h :=
  if inside : x < w ∧ y < h then
    let column := image.columns[x]
    let bit := BitVec.twoPow h y
    ⟨image.columns.set x (if on then column ||| bit else column &&& ~~~bit)⟩
  else image

/-- The number of lit pixels. -/
def lit (image : Raster w h) : Nat :=
  (image.columns.toList.map fun column => (List.range h).countP column.getLsbD).foldr (· + ·) 0

instance : Picture (Raster w h) where
  width _ := w
  height _ := h
  get := get

/-! ## Drawing -/

/-- A pixel to draw, at a place that may lie outside the image. -/
structure Pixel where
  /-- the column, counted from the left edge -/
  x : Int
  /-- the row, counted from the top edge -/
  y : Int
  /-- the pixel is to be lit -/
  on : Bool
deriving DecidableEq

/-- Draws one pixel if it lies inside. -/
def plot (image : Raster w h) (p : Pixel) : Raster w h :=
  if p.x < 0 ∨ p.y < 0 then image else image.set p.x.toNat p.y.toNat p.on

/-- Draws pixels one after another. -/
def draw (image : Raster w h) (pixels : List Pixel) : Raster w h :=
  pixels.foldl plot image

/-! ## Bitmaps and images -/

/-- The column whose row `r` is lit where `rows r` says so. -/
def column (h : Nat) (rows : Nat → Bool) : BitVec h :=
  (List.range h).foldl (fun c r => if rows r then c ||| BitVec.twoPow h r else c) 0

/-- The image that the first columns of a compiled bitmap show. The lowest bit of a byte belongs to
no row. -/
def ofBitmap (bytes : List UInt8) : PanelRaster :=
  ⟨Vector.ofFn fun x =>
    let byte := bytes[x.val]?.getD 0
    column panelHeight fun row => byte.toNat.testBit (7 - row)⟩

/-- The image as a bitmap for a panel. -/
def toBitmap (image : PanelRaster) : Bitmap := windowAt image 0 0

/-- The rows of a panel image as lines of text, lit pixels as number signs. -/
def sketch (image : PanelRaster) : String :=
  String.join <| (List.range panelHeight).map fun y =>
    String.ofList ((List.range panelWidth).map fun x => if image.get x y then '#' else '.') ++ "\n"

end Raster

end Marquee
