import Marquee.Picture.Glyphs
import Marquee.Picture.Raster

/-!
# Fixed width fonts

Every character of a font fills a cell of the same size. Characters without a shape of their own
show the question mark. A text is drawn line by line, each line one cell height below the one
before it; a carriage return at the end of a line is not shown. The measured width counts all
characters, line ends included, so it is never less than what is drawn.

A `Plane` is an image that reaches as far as one likes, also to the left and upwards, so that
nothing drawn on it is ever lost. A text drawn once with its corner at the origin of a dark plane is
its strip (`Font.strip`).
-/

namespace Marquee

/-- A font of equal cells. -/
structure Font where
  /-- columns of a cell -/
  width : Nat
  /-- rows of a cell -/
  height : Nat
  /-- the shapes of the printable ASCII characters, from the space on -/
  shapes : Array Nat

namespace Font

/-- The font of scrolling messages, as high as a panel. -/
def message : Font := ⟨5, 7, Glyphs.fiveBySeven⟩

/-- The compact font of the clock face. -/
def clock : Font := ⟨4, 6, Glyphs.fourBySix⟩

/-- What the font says of itself. -/
def describe (f : Font) : String :=
  "Font \x7b width: " ++ toString f.width ++ ", height: " ++ toString f.height ++ " \x7d"

/-- The shape of a character. -/
def shape (f : Font) (c : Char) : Nat :=
  if Glyphs.firstCode ≤ c.toNat then
    match f.shapes[c.toNat - Glyphs.firstCode]? with
    | some shape => shape
    | none => f.shapes.getD ('?'.toNat - Glyphs.firstCode) 0
  else f.shapes.getD ('?'.toNat - Glyphs.firstCode) 0

/-- The pixel of a character's cell is lit. -/
def lights (f : Font) (c : Char) (column row : Nat) : Bool :=
  (f.shape c).testBit (8 * (f.width - 1 - column) + row)

/-- The places in a character's cell that are lit, column by column. -/
def cell (f : Font) (c : Char) : List (Nat × Nat) :=
  (List.range f.width).flatMap fun column =>
    ((List.range f.height).filter (f.lights c column)).map fun row => (column, row)

/-- The measured width of a text in pixels. -/
def textWidth (f : Font) (text : String) : Nat := text.length * f.width

/-! ## Drawing text -/

/-- The lines of a text, cut at each line feed. -/
def splitLines : List Char → List (List Char)
  | [] => [[]]
  | c :: rest =>
    if c = '\n' then [] :: splitLines rest
    else
      match splitLines rest with
      | line :: lines => (c :: line) :: lines
      | [] => [[c]]

/-- A line without the carriage return that may end it. -/
def trimReturn (line : List Char) : List Char :=
  if line.getLast? = some '\r' then line.dropLast else line

/-- The lit places of one line whose corner is at column `x` and row `y`. -/
def linePixels (f : Font) (x y : Int) : List Char → List Raster.Pixel
  | [] => []
  | c :: rest =>
    (f.cell c).map (fun place => ⟨x + place.1, y + place.2, true⟩) ++
      linePixels f (x + f.width) y rest

/-- The lit places of lines below one another. -/
def linesPixels (f : Font) (x y : Int) : List (List Char) → List Raster.Pixel
  | [] => []
  | line :: lines =>
    linePixels f x y (trimReturn line) ++ linesPixels f x (y + f.height) lines

/-- The pixels that a text with its corner at column `x` and row `y` lights. -/
def pixels (f : Font) (text : String) (x y : Int) : List Raster.Pixel :=
  linesPixels f x y (splitLines text.toList)

/-- Draws a text over an image. Pixels that the text does not light stay as they are. -/
def draw {w h : Nat} (f : Font) (text : String) (x y : Int) (image : Raster w h) :
    Raster w h :=
  image.draw (f.pixels text x y)

end Font

/-! ## Images without edges -/

/-- The pixel in a column and a row is lit. -/
abbrev Plane := Int → Int → Bool

namespace Plane

/-- No pixel is lit. -/
def dark : Plane := fun _ _ => false

/-- Draws one pixel. -/
def plot (plane : Plane) (p : Raster.Pixel) : Plane := fun x y =>
  if x = p.x ∧ y = p.y then p.on else plane x y

/-- Draws pixels one after another. -/
def draw (plane : Plane) (pixels : List Raster.Pixel) : Plane := pixels.foldl plot plane

/-- The rows that a panel has of a column, as the panel takes them. -/
def column (plane : Plane) (x : Int) : UInt8 := columnByte panelHeight fun row => plane x row

end Plane

/-- The text drawn once at the origin. -/
def Font.strip (f : Font) (text : String) : Plane := Plane.dark.draw (f.pixels text 0 0)

end Marquee
