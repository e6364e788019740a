import Marquee.Service.Course
import Marquee.Service.Watched

/-!
# Diaries

What a panel side goes through from its start on, with any links and any bus: orders reach the
sign, the panel side ticks, and between these the panels and the bus come into whatever state they
please. A `Diary` takes such occasions one after another and puts down for each tick what the tick
did (`TickNote`): between which activities it moved, what it drew, which panels it called, and what
it left behind in the sign.
-/

namespace Marquee

/-- Something that happens to a panel side, whatever its panels do. -/
inductive Cue
  /-- the sign carries out an order that comes at a time -/
  | order (order : Order) (nowMs : Nat)
  /-- the panel side ticks at a reading of the clock -/
  | tick (now : ClockReading)
deriving DecidableEq

/-- Something that happens after the panels and the bus have been left to themselves. -/
structure Occasion (ℓ β : Type) where
  /-- what has become of the panels in the meantime -/
  panels : Trio ℓ → Trio ℓ
  /-- what has become of the bus in the meantime -/
  bus : β → β
  /-- what happens now -/
  cue : Cue

/-- What one tick did. -/
structure TickNote where
  /-- the activity before it -/
  before : Activity
  /-- the activity after it -/
  after : Activity
  /-- the bitmap that it drew, if it drew one -/
  drawn : Option Bitmap
  /-- the calls that it made on the panels, in order -/
  calls : List CallNote
  /-- the sign after it -/
  sign : Sign
  /-- the time until the next tick that it asked for, in milliseconds -/
  periodMs : Nat
deriving DecidableEq

/-- The place and the bitmap of a call that writes one. -/
def CallNote.image? (note : CallNote) : Option (Fin 3 × Bitmap) :=
  match note.call with
  | .image bitmap => some (note.place, bitmap)
  | .relay _ => none

namespace TickNote

/-- The places that the tick wrote a bitmap to, in order, each with its bitmap. -/
def images (note : TickNote) : List (Fin 3 × Bitmap) := note.calls.filterMap CallNote.image?

/-- The panels were idle and are active now. -/
def Woke (note : TickNote) : Prop := note.before = .idle ∧ note.after = .active

/-- The tick wrote the bitmap to every panel, and each accepted it. -/
def Accepted (bitmap : Bitmap) (note : TickNote) : Prop :=
  ∀ place, ⟨place, .image bitmap, true⟩ ∈ note.calls

end TickNote

namespace PanelSide

variable {ℓ β : Type}

/-- The panel side after the panels and the bus were left to themselves. -/
def meanwhile (panels : Trio ℓ → Trio ℓ) (bus : β → β) (s : PanelSide ℓ β) : PanelSide ℓ β :=
  { s with panels := panels s.panels, hub := { s.hub with bus := bus s.hub.bus } }

/-- What a tick now does. -/
def note [Link ℓ] [Bus β] (now : ClockReading) (s : PanelSide ℓ β) : TickNote where
  before := s.activity
  after := (s.tick now).2.activity
  drawn := s.drawing now
  calls := ((⟨s, []⟩ : Watched ℓ β).tick now).2.calls
  sign := (s.tick now).2.hub.sign
  periodMs := (s.tick now).1

end PanelSide

/-- A panel side and what its ticks so far have done, oldest first. -/
structure Diary (ℓ β : Type) where
  /-- the panel side as it is now -/
  side : PanelSide ℓ β
  /-- what the ticks so far have done -/
  past : List TickNote

namespace Diary

variable {ℓ β : Type}

/-- The diary of a panel side that has just been started. -/
def start (timings : Timings) (bus : β) (panels : Trio ℓ) : Diary ℓ β :=
  ⟨.new (.new timings bus) panels, []⟩

variable [Link ℓ] [Bus β]

/-- The diary after one more occasion. -/
def after (d : Diary ℓ β) (occasion : Occasion ℓ β) : Diary ℓ β :=
  let side := d.side.meanwhile occasion.panels occasion.bus
  match occasion.cue with
  | .order order nowMs => { d with side := side.mapHub fun hub => (hub.applyOrder order nowMs).2 }
  | .tick now => ⟨(side.tick now).2, d.past ++ [side.note now]⟩

/-- The diary after all occasions. -/
def course (occasions : List (Occasion ℓ β)) (d : Diary ℓ β) : Diary ℓ β :=
  occasions.foldl after d

end Diary

end Marquee
