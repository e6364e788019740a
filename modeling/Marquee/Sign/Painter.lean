import Marquee.Clock.Time
import Marquee.Picture.Font
import Marquee.Sign.Basic

/-!
# Painting the sign

The view of a sign becomes one panel bitmap: the message if there is one, and the clock face
otherwise. `ClockFace.bitmap` and `ScrolledText.bitmap` are the two pictures; a `Painter` keeps
the last one of each kind, because the clock changes once a second and a slow message stands still
for several ticks.
-/

namespace Marquee

namespace ClockFace

/-- Column of the time of day. -/
def timeColumn : Int := 15

/-- Column of the beats. -/
def beatsColumn : Int := 61

/-- Column of the label after the beats. -/
def labelColumn : Int := 94

/-- The label after the beats. -/
def label : String := ".beats"

/-- Top row of the face, which puts the compact font in the middle of the panel. -/
def topRow : Int := 1

/-- The picture of a clock face. -/
def bitmap (face : ClockFace) : Bitmap :=
  Raster.toBitmap <|
    Font.clock.draw label labelColumn topRow <|
      Font.clock.draw face.beats beatsColumn topRow <|
        Font.clock.draw face.time timeColumn topRow (Raster.dark panelWidth panelHeight)

end ClockFace

namespace ScrolledText

/-- The columns that have scrolled out of the picture. A message that fits the panel stands still,
and a wider one starts again once it has passed. -/
def shift (message : ScrolledText) : UInt32 :=
  if panelWidth < message.width.toNat then message.offset % message.width else 0

/-- The column at which a message starts that is shifted out on the left. The shift is a signed
word, so that one of two to the 31 and more comes out on the right. -/
def startColumn (shift : UInt32) : Int := (-shift.toInt32).toInt

/-- The picture of a message. -/
def bitmap (text : String) (shift : UInt32) : Bitmap :=
  Raster.toBitmap <|
    Font.message.draw text (startColumn shift) 0 (Raster.dark panelWidth panelHeight)

end ScrolledText

/-- The width of a message in the message font, in columns. -/
def messageSpan (text : String) : UInt32 := UInt32.ofNat (Font.message.textWidth text)

/-- The last clock face and its picture. -/
structure PaintedClock where
  /-- the face -/
  face : ClockFace
  /-- its picture -/
  bitmap : Bitmap
deriving DecidableEq

/-- The last message and its picture. -/
structure PaintedMessage where
  /-- the text -/
  text : String
  /-- the columns that had scrolled out -/
  shift : UInt32
  /-- its picture -/
  bitmap : Bitmap
deriving DecidableEq

/-- Draws bitmaps and keeps the last one of each kind. -/
structure Painter where
  /-- the last clock face -/
  clock : Option PaintedClock
  /-- the last message -/
  message : Option PaintedMessage
deriving DecidableEq

namespace Painter

/-- Nothing has been drawn yet. -/
def new : Painter := ⟨none, none⟩

/-- Draws a clock face, unless it is the last one. -/
def drawClock (face : ClockFace) (p : Painter) : Bitmap × Painter :=
  match p.clock.filter fun painted => painted.face == face with
  | some painted => (painted.bitmap, p)
  | none => (face.bitmap, { p with clock := some ⟨face, face.bitmap⟩ })

/-- Draws a message, unless it is the last one in the same place. -/
def drawMessage (message : ScrolledText) (p : Painter) : Bitmap × Painter :=
  let shift := message.shift
  match p.message.filter fun painted => painted.shift == shift && painted.text == message.text with
  | some painted => (painted.bitmap, p)
  | none =>
    let bitmap := ScrolledText.bitmap message.text shift
    (bitmap, { p with message := some ⟨message.text, shift, bitmap⟩ })

/-- Draws what a view shows: its message or else the clock, with lit and dark exchanged if asked
for. -/
def draw (view : SignView) (face : ClockFace) (p : Painter) : Bitmap × Painter :=
  let (bitmap, p) :=
    match view.message with
    | some message => p.drawMessage message
    | none => p.drawClock face
  (if view.inverted then bitmap.complement else bitmap, p)

end Painter

/-- What a painter can be asked to draw. -/
inductive PaintRequest
  /-- a clock face -/
  | clock (face : ClockFace)
  /-- a message -/
  | message (message : ScrolledText)
  /-- a view, with the clock face for a sign without a message -/
  | view (view : SignView) (face : ClockFace)
deriving DecidableEq

namespace Painter

/-- Draws what is asked for. -/
def paint (request : PaintRequest) (p : Painter) : Bitmap × Painter :=
  match request with
  | .clock face => p.drawClock face
  | .message message => p.drawMessage message
  | .view view face => p.draw view face

/-- Draws one thing after another. -/
def paintAll : List PaintRequest → Painter → List Bitmap × Painter
  | [], p => ([], p)
  | request :: rest, p =>
    let (bitmap, p) := p.paint request
    let (bitmaps, p) := paintAll rest p
    (bitmap :: bitmaps, p)

end Painter

end Marquee
