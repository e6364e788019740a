import Marquee.Service.Diary

/-!
# Overheard runs

A diary tells which calls the ticks have made on the panels, but not what they have asked of the
bus. `Overheard` writes down what is asked of a bus and hands it on, so that the answers are those
of the bus. On an overheard bus both are known, and what orders, panels and bus do in the meantime
stays the same (`Occasion.overheard`). Forgetting what was asked leads back to the run on the bus
alone (`Diary.plain`).
-/

namespace Marquee

variable {ℓ β : Type}

/-! ## A bus that is listened in on -/

/-- A bus and what was asked of it so far. -/
structure Overheard (β : Type) where
  /-- the bus -/
  bus : β
  /-- the requests, oldest first, taken or turned down -/
  asked : List BusRequest

namespace Overheard

/-- A bus with nothing asked of it yet. -/
def ofBus (bus : β) : Overheard β := ⟨bus, []⟩

/-- Changes the bus without a request. -/
def mapBus (f : β → β) (o : Overheard β) : Overheard β := { o with bus := f o.bus }

/-- Writes down a request and hands it on. -/
def handOn (request : BusRequest) (operation : Attempt β BusError Unit) :
    Attempt (Overheard β) BusError Unit := fun o =>
  let (answer, bus) := operation o.bus
  (answer, ⟨bus, o.asked ++ [request]⟩)

instance [Bus β] : Bus (Overheard β) where
  publish topic payload retain :=
    handOn (.publish topic payload retain) (Bus.publish topic payload retain)
  subscribe topic := handOn (.subscribe topic) (Bus.subscribe topic)
  disconnect := handOn .disconnect Bus.disconnect

end Overheard

/-! ## Runs on it -/

/-- The same occasion for a panel side on an overheard bus. -/
def Occasion.overheard (o : Occasion ℓ β) : Occasion ℓ (Overheard β) where
  panels := o.panels
  bus := Overheard.mapBus o.bus
  cue := o.cue

/-- The hub on the bus alone. -/
def Hub.plain (hub : Hub (Overheard β)) : Hub β where
  timings := hub.timings
  sign := hub.sign
  running := hub.running
  bus := hub.bus.bus
  journal := hub.journal

/-- The panel side on the bus alone. -/
def PanelSide.plain (s : PanelSide ℓ (Overheard β)) : PanelSide ℓ β where
  hub := s.hub.plain
  panels := s.panels
  painter := s.painter
  activity := s.activity
  relay := s.relay

/-- The diary on the bus alone. -/
def Diary.plain (d : Diary ℓ (Overheard β)) : Diary ℓ β := ⟨d.side.plain, d.past⟩

/-! ## The relay in a diary -/

/-- A switch of the relay, which hangs on one of the panels. -/
def CallNote.switch (on succeeded : Bool) : CallNote :=
  ⟨PanelSide.relayPlace, .relay on, succeeded⟩

/-- The relay state that a call brought about, if it is a switch and the panel acknowledged it. -/
def CallNote.acknowledged? : CallNote → Option Bool
  | ⟨_, .relay on, true⟩ => some on
  | _ => none

/-- The relay states that were acknowledged in a tick, in order. -/
def TickNote.acknowledged (note : TickNote) : List Bool :=
  note.calls.filterMap CallNote.acknowledged?

/-- The relay states that were acknowledged in some ticks, in order. -/
def acknowledgements (past : List TickNote) : List Bool := past.flatMap TickNote.acknowledged

/-- The publication of a relay state, which the bus keeps. -/
def relayPublication (on : Bool) : BusRequest := .publish Topic.power (switchPayload on) true

end Marquee
