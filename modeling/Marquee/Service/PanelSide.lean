import Marquee.Link.Basic
import Marquee.Service.Hub
import Marquee.Sign.Timings
import Marquee.Sign.Painter
import Marquee.Trio

/-!
# The panel side

Every tick keeps the power relay in step with the wanted power state, moves between active and
idle, and while active draws a bitmap and writes it to the panels that do not show it yet. A
failing panel is remarked on and tried again: the relay is switched until the panel acknowledges
it, and a bitmap is written until all panels have accepted the same one.
-/

namespace Marquee

/-- What one active tick takes from the sign. -/
structure SignTick where
  /-- what the picture depends on -/
  view : SignView
  /-- the message went away -/
  expired : Bool
deriving DecidableEq

/-- Drops a message that is gone, looks, and scrolls on. -/
def Sign.tick (nowMs : Nat) (tickS : Single) (s : Sign) : SignTick × Sign :=
  let (expired, s) := s.dropExpired nowMs
  (⟨s.view, expired⟩, s.scroll tickS)

/-- The panel side with all that it works on. -/
structure PanelSide (ℓ β : Type) where
  /-- what it shares with the control side -/
  hub : Hub β
  /-- the links to the panels, in the order of their places -/
  panels : Trio ℓ
  /-- draws the bitmaps -/
  painter : Painter
  /-- whether the panels are served -/
  activity : Activity
  /-- the relay state that the panel acknowledged last -/
  relay : Option Bool

namespace PanelSide

variable {ℓ β : Type}

/-- The start of a run: idle, with nothing known about the relay. -/
def new (hub : Hub β) (panels : Trio ℓ) : PanelSide ℓ β := ⟨hub, panels, .new, .idle, none⟩

/-- Changes the shared part. -/
def mapHub (f : Hub β → Hub β) (s : PanelSide ℓ β) : PanelSide ℓ β := { s with hub := f s.hub }

/-- Makes a remark. -/
def say (level : Level) (text : String) (s : PanelSide ℓ β) : PanelSide ℓ β :=
  s.mapHub (Hub.say level text)

/-- The place of the panel that the power relay hangs on. -/
def relayPlace : Fin 3 := 0

section Panels

variable [Link ℓ]

/-- Calls the panel at a place; what the link says goes to the journal. -/
def call {α : Type} (place : Fin 3) (operation : Attempt ℓ LinkError α) (s : PanelSide ℓ β) :
    Except LinkError α × PanelSide ℓ β :=
  let (answer, link) := operation (s.panels.get place)
  let (remarks, link) := Link.takeRemarks link
  (answer,
    { s with
      panels := s.panels.set place link
      hub := { s.hub with journal := s.hub.journal ++ remarks } })

/-! ## The relay -/

/-- Switches the relay. An acknowledged state is the one that is known from then on. -/
def switchRelay (on : Bool) (s : PanelSide ℓ β) : Except LinkError Unit × PanelSide ℓ β :=
  match s.call relayPlace (Link.switchRelay on) with
  | (.ok (), s) => (.ok (), { s with relay := some on })
  | (.error e, s) => (.error e, s)

/-- Publishes an acknowledged relay state. -/
def publishRelay [Bus β] (on : Bool) (s : PanelSide ℓ β) : PanelSide ℓ β :=
  s.mapHub fun hub => hub.request (Bus.publish Topic.power (switchPayload on) true) fun e =>
    ⟨.warn, "publish power state failed: " ++ e.message⟩

/-- Brings the relay in step with the wanted power state, unless it is known to be. -/
def keepRelay [Bus β] (powered : Bool) (s : PanelSide ℓ β) : PanelSide ℓ β :=
  if s.relay = some powered then s
  else
    match s.switchRelay powered with
    | (.ok (), s) => (s.say .info ("relay " ++ switchPayload powered)).publishRelay powered
    | (.error e, s) => s.say .warn ("relay switch failed: " ++ e.message)

/-! ## The bitmap -/

/-- Writes a bitmap to the panel at a place; the answer is true if the panel accepted it. -/
def writePanel (bitmap : Bitmap) (place : Fin 3) (s : PanelSide ℓ β) : Bool × PanelSide ℓ β :=
  match s.call place (Link.showHalves bitmap.toList) with
  | (.ok (), s) => (true, s)
  | (.error e, s) => (false, s.say .warn ("panel " ++ toString place.val ++ ": " ++ e.message))

/-- Writes a bitmap to all panels in order; the answer is how many accepted it. -/
def writePanels (bitmap : Bitmap) (s : PanelSide ℓ β) : Nat × PanelSide ℓ β :=
  let (first, s) := s.writePanel bitmap 0
  let (second, s) := s.writePanel bitmap 1
  let (third, s) := s.writePanel bitmap 2
  (first.toNat + second.toNat + third.toNat, s)

/-- Writes a bitmap and keeps it in mind if all panels have accepted it. -/
def push (bitmap : Bitmap) (s : PanelSide ℓ β) : PanelSide ℓ β :=
  let (accepted, s) := s.writePanels bitmap
  if accepted = panelCount then s.mapHub (Hub.mapSign (Sign.confirm bitmap))
  else
    s.say .debug
      ("bitmap accepted by " ++ toString accepted ++ "/" ++ toString panelCount ++ " panels")

/-- Takes what an active tick needs from the sign. -/
def look (now : ClockReading) (s : PanelSide ℓ β) : SignView × PanelSide ℓ β :=
  let (tick, sign) := s.hub.sign.tick now.sinceEpochMs s.hub.timings.activePeriodS
  let s := { s with hub := { s.hub with sign := sign } }
  (tick.view, if tick.expired then s.say .info "message expired" else s)

/-- Draws a bitmap. -/
def draw (view : SignView) (now : ClockReading) (s : PanelSide ℓ β) : Bitmap × PanelSide ℓ β :=
  let (bitmap, painter) := s.painter.draw view now.face
  (bitmap, { s with painter := painter })

/-- Draws the sign and writes it to the panels, unless they all show it. -/
def redraw (now : ClockReading) (s : PanelSide ℓ β) : PanelSide ℓ β :=
  let (view, s) := s.look now
  let (bitmap, s) := s.draw view now
  if s.hub.sign.lacks bitmap then s.push bitmap else s

/-! ## Ticks -/

/-- Wakes the panels up or lets them rest, as goes with the power state. After waking up nothing is
known about what the panels show. -/
def followPower (powered : Bool) (s : PanelSide ℓ β) : PanelSide ℓ β :=
  let before := s.activity
  let s := { s with activity := before.next powered }
  if s.activity.awokeFrom before then
    (s.say .info "panels active").mapHub (Hub.mapSign Sign.forgetConfirmed)
  else if s.activity ≠ before then s.say .info "panels idle"
  else s

/-- One tick at a reading of the clock. The answer is the time until the next one, in
milliseconds. -/
def tick [Bus β] (now : ClockReading) (s : PanelSide ℓ β) : Nat × PanelSide ℓ β :=
  let powered := s.hub.sign.powered
  let s := (s.keepRelay powered).followPower powered
  let s := if s.activity.draws then s.redraw now else s
  (s.activity.periodMs s.hub.timings, s)

/-- The end of the panel side: the relay is switched off, unless it is known to be. -/
def stop (s : PanelSide ℓ β) : PanelSide ℓ β :=
  let s :=
    if s.relay = some false then s
    else
      match s.switchRelay false with
      | (.ok (), s) => s
      | (.error e, s) => s.say .warn ("relay switch-off failed: " ++ e.message)
  s.say .info "panel loop stopped"

/-- What a tick of a run meets. -/
structure Moment where
  /-- the reading of the clock -/
  now : ClockReading
  /-- somebody asks for the end while the clock is read -/
  ending : Bool

/-- Ticks at one moment after another, as long as nobody has asked for the end. -/
def runTicks [Bus β] : List Moment → PanelSide ℓ β → PanelSide ℓ β
  | [], s => s
  | moment :: rest, s =>
    if s.hub.running then
      let s := if moment.ending then s.mapHub fun hub => hub.requestEnd.2 else s
      runTicks rest (s.tick moment.now).2
    else s

/-- The whole work of the panel side. -/
def run [Bus β] (moments : List Moment) (s : PanelSide ℓ β) : PanelSide ℓ β :=
  (runTicks moments (s.say .info "panel loop started")).stop

end Panels

end PanelSide

end Marquee
