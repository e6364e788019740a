import Marquee.Link.Exchange
import Marquee.Panel.Line
import Marquee.Service.ControlSide
import Marquee.Service.PanelSide

/-!
# The course of events

A panel side whose panels are emulated does not tick in a vacuum: between two ticks orders reach
the sign, and panels stop answering or answer again. `Chronicle.course` lets such happenings take
their course and writes down what each tick met (`TickRecord`), so that what the panels show can
be compared with everything that has happened.
-/

namespace Marquee

/-! ## A panel side on lines -/

namespace PanelSide

variable {β : Type}

/-- The line to the panel at a place. -/
def line (s : PanelSide (ChannelLink PanelLine) β) (place : Fin 3) : PanelLine :=
  (s.panels.get place).channel

/-- The panel at a place. -/
def panel (s : PanelSide (ChannelLink PanelLine) β) (place : Fin 3) : Firmware :=
  (s.line place).panel

/-- Makes the panel at a place answer from now on, or keeps it from answering. -/
def setResponsive (place : Fin 3) (on : Bool) (s : PanelSide (ChannelLink PanelLine) β) :
    PanelSide (ChannelLink PanelLine) β :=
  { s with panels := s.panels.set place ⟨(s.line place).setResponsive on⟩ }

variable {ℓ : Type} [Link ℓ] [Bus β]

/-- The bitmap that a tick draws, if it draws one. -/
def drawing (now : ClockReading) (s : PanelSide ℓ β) : Option Bitmap :=
  let powered := s.hub.sign.powered
  let s := (s.keepRelay powered).followPower powered
  if s.activity.draws then
    let (view, s) := s.look now
    some (s.draw view now).1
  else none

end PanelSide

/-! ## Happenings -/

/-- Something that happens around the panel side. -/
inductive Happening
  /-- the sign carries out an order that comes at a time -/
  | order (order : Order) (nowMs : Nat)
  /-- a panel answers from now on, or does not answer any more -/
  | responsive (place : Fin 3) (on : Bool)
  /-- the panel side ticks at a reading of the clock -/
  | tick (now : ClockReading)

/-- What one tick met and drew. -/
structure TickRecord where
  /-- the power state that it read -/
  powered : Bool
  /-- which panels answered -/
  responsive : Fin 3 → Bool
  /-- the bitmap that it drew, if it drew one -/
  drawn : Option Bitmap

/-- A panel side and the ticks so far, oldest first. -/
structure Chronicle (β : Type) where
  /-- the panel side as it is now -/
  side : PanelSide (ChannelLink PanelLine) β
  /-- what the ticks so far met -/
  past : List TickRecord

namespace Chronicle

variable {β : Type} [Bus β]

/-- A panel side that has not ticked yet. -/
def start (hub : Hub β) (panels : Trio (ChannelLink PanelLine)) : Chronicle β :=
  ⟨.new hub panels, []⟩

/-- What a tick now would meet and draw. -/
def record (now : ClockReading) (c : Chronicle β) : TickRecord where
  powered := c.side.hub.sign.powered
  responsive place := (c.side.panel place).responsive
  drawn := c.side.drawing now

/-- The panel side after something has happened. -/
def after (c : Chronicle β) : Happening → Chronicle β
  | .order order nowMs =>
    { c with side := c.side.mapHub fun hub => (hub.applyOrder order nowMs).2 }
  | .responsive place on => { c with side := c.side.setResponsive place on }
  | .tick now => ⟨(c.side.tick now).2, c.past ++ [c.record now]⟩

/-- The panel side after all that has happened. -/
def course (happenings : List Happening) (c : Chronicle β) : Chronicle β :=
  happenings.foldl after c

/-- What every happening keeps is still so after all of them. -/
theorem course_keeps {P : Chronicle β → Prop}
    (keeps : ∀ {c}, P c → ∀ happening, P (c.after happening)) {c : Chronicle β} (h : P c)
    (happenings : List Happening) : P (c.course happenings) := by
  induction happenings generalizing c with
  | nil => exact h
  | cons happening rest ih => exact ih (keeps h happening)

end Chronicle

end Marquee
