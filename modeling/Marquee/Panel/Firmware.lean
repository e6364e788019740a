import Marquee.Journal
import Marquee.Picture.Raster
import Marquee.Text.Utf8

/-!
# An emulated panel

`Firmware` behaves as the firmware of one panel: it executes frames and answers them. A frame
that carries no command, or a bitmap of a wrong length, is refused and changes nothing. An
unresponsive panel still executes its frames; only the answers are lost, which is the business of
the line (`PanelLine`), not of `execute`.
-/

namespace Marquee

/-- The state of one panel. -/
structure Firmware where
  /-- the stored identity -/
  id : UInt8
  /-- the power relay is on -/
  relay : Bool
  /-- the shown bitmap -/
  front : Bitmap
  /-- the hidden bitmap -/
  back : Bitmap
  /-- the text shown in the panel's own font -/
  text : Option String
  /-- everything passed through to the auxiliary serial output -/
  auxiliary : List UInt8
  /-- how often the bitmaps were exchanged, in a machine word -/
  flipCount : UInt64
  /-- frames are answered -/
  responsive : Bool
deriving DecidableEq

namespace Firmware

/-- A panel as it comes up. -/
def new (id : UInt8) : Firmware where
  id := id
  relay := false
  front := .dark
  back := .dark
  text := none
  auxiliary := []
  flipCount := 0
  responsive := true

/-- How often the bitmaps were exchanged, as a number. -/
def flips (p : Firmware) : Nat := p.flipCount.toNat

/-- The bitmap with another first half. -/
def withFirstHalf (half : Bytes halfWidth) (bitmap : Bitmap) : Bitmap :=
  ⟨half.toList ++ bitmap.toList.drop halfWidth, by
    rw [List.length_append, List.length_drop, half.length_toList, bitmap.length_toList]; rfl⟩

/-- The bitmap with another second half. -/
def withSecondHalf (half : Bytes halfWidth) (bitmap : Bitmap) : Bitmap :=
  ⟨bitmap.toList.take halfWidth ++ half.toList, by
    rw [List.length_append, List.length_take, half.length_toList, bitmap.length_toList]; rfl⟩

/-- Executes a command. The answer is none where the command carries a bitmap of a wrong length. -/
def execute (p : Firmware) : Command → Option (Response × Firmware)
  | .text _ _ bytes => some (.ack, { p with text := some (Text.ofUtf8Lossy bytes) })
  | .bitmap bytes =>
    (Bytes.ofList? panelWidth bytes).map fun bitmap => (.ack, { p with front := bitmap })
  | .storeId id => some (.ack, { p with id := id })
  | .askId => some (⟨statusOk, .single p.id⟩, p)
  | .passThrough bytes => some (.ack, { p with auxiliary := p.auxiliary ++ bytes })
  | .relay on => some (.ack, { p with relay := on })
  | .flip =>
    some (.ack, { p with front := p.back, back := p.front, flipCount := p.flipCount + 1 })
  | .firstHalf bytes =>
    (Bytes.ofList? halfWidth bytes).map fun half =>
      (.ack, { p with back := withFirstHalf half p.back })
  | .secondHalf bytes =>
    (Bytes.ofList? halfWidth bytes).map fun half =>
      (.ack, { p with back := withSecondHalf half p.back })

/-- Executes one frame and answers it. -/
def answer (p : Firmware) (frame : Frame) : Response × Firmware :=
  match Command.ofFrame? frame with
  | .error _ => (.refused, p)
  | .ok command => (p.execute command).getD (.refused, p)

/-- What the panel says while it handles a frame: why it refuses one that carries no command, where
a text goes, and what an exchange of bitmaps brings to light. -/
def remarks (p : Firmware) (frame : Frame) : Journal :=
  let name := "panel " ++ toString p.id.toNat
  match Command.ofFrame? frame with
  | .error e =>
    [⟨.debug, name ++ ": rejected frame " ++ Text.markedHex frame.opcode ++ ": " ++ e.message⟩]
  | .ok (.text x y _) =>
    [⟨.trace, name ++ ": text at (" ++ toString x.toInt ++ ", " ++ toString y.toInt ++ ")"⟩]
  | .ok .flip =>
    [⟨.trace, name ++ ":\n" ++ (Raster.ofBitmap p.back.toList).sketch⟩]
  | .ok _ => []

end Firmware

end Marquee
