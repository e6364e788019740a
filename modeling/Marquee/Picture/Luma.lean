import Marquee.Picture.Window

/-!
# Gray images

An image with one brightness for each pixel, read as lit and dark: a pixel is lit from half
brightness on. `LumaImage.ofBmp?` reads one from an uncompressed bitmap file with three bytes for
each pixel.
-/

namespace Marquee

/-- An image with one brightness for each pixel. -/
structure LumaImage where
  /-- the number of columns -/
  width : Nat
  /-- the number of rows -/
  height : Nat
  /-- the brightness of each pixel, row by row -/
  luma : Array UInt8

namespace LumaImage

/-- The least brightness of a lit pixel. -/
def litFrom : UInt8 := 128

/-- The pixel in a column and a row is lit; none is outside the image. -/
def get (image : LumaImage) (x y : Nat) : Bool :=
  if x < image.width ∧ y < image.height then
    match image.luma[y * image.width + x]? with
    | some value => litFrom ≤ value
    | none => false
  else false

instance : Picture LumaImage where
  width := LumaImage.width
  height := LumaImage.height
  get := get

/-! ## Bitmap files -/

/-- The brightness of a color: green counts most and blue least. -/
def brightness (red green blue : UInt8) : UInt8 :=
  UInt8.ofNat ((2126 * red.toNat + 7152 * green.toNat + 722 * blue.toNat) / 10000)

/-- The number in the bytes from a place on, lowest byte first. -/
def littleEndian (bytes : Array UInt8) (start count : Nat) : Nat :=
  (List.range count).foldr (fun i n => (bytes.getD (start + i) 0).toNat + 256 * n) 0

/-- The same as a signed number of four bytes. -/
def littleEndianInt (bytes : Array UInt8) (start : Nat) : Int :=
  let n := littleEndian bytes start 4
  if n < UInt32.size / 2 then n else (n : Int) - UInt32.size

/-- The largest width and height of an image that is read. -/
def maxSide : Nat := UInt16.size - 1

/-- The image in a bitmap file: rows filled up to four bytes, from the bottom up unless the height
is negative. The file must be complete. -/
def ofBmp? (file : List UInt8) : Option LumaImage :=
  let bytes := file.toArray
  let width := littleEndianInt bytes 18
  let height := littleEndianInt bytes 22
  let start := littleEndian bytes 10 4
  let plain :=
    54 ≤ bytes.size && littleEndian bytes 0 2 == 0x4d42 && littleEndian bytes 14 4 == 40 &&
      littleEndian bytes 26 2 == 1 && littleEndian bytes 28 2 == 24 &&
      littleEndian bytes 30 4 == 0
  if plain && 0 ≤ width && width.natAbs ≤ maxSide && height.natAbs ≤ maxSide then
    let w := width.natAbs
    let h := height.natAbs
    let stride := (3 * w + 3) / 4 * 4
    if start + stride * h ≤ bytes.size then
      let pixel (x y : Nat) : UInt8 :=
        let row := if height < 0 then y else h - 1 - y
        let place := start + stride * row + 3 * x
        brightness (bytes.getD (place + 2) 0) (bytes.getD (place + 1) 0) (bytes.getD place 0)
      some ⟨w, h, ((List.range h).flatMap fun y => (List.range w).map fun x => pixel x y).toArray⟩
    else none
  else none

/-- The part of a file's name after its last point, in small letters. -/
def extension? (path : String) : Option String :=
  let name := (path.toList.reverse.takeWhile (· != '/')).reverse
  let tail := (name.reverse.takeWhile (· != '.')).reverse
  if tail.length + 1 < name.length then some (String.ofList (tail.map Char.toLower)) else none

/-- The image in a file. The name tells the format, and only bitmap files can be read. -/
def ofFile? (path : String) (file : List UInt8) : Option LumaImage :=
  if extension? path = some "bmp" then ofBmp? file else none

end LumaImage

end Marquee
