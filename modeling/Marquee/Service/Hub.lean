import Marquee.Bus.Basic
import Marquee.Journal
import Marquee.Sign.Basic

/-!
# What both sides share

The control side hears orders from the bus, the panel side serves the panels. They share the sign,
the wish to keep running, the bus client and the journal. Neither side holds the sign while it
speaks to the bus or to a panel.
-/

namespace Marquee

/-- What the control side and the panel side share. -/
structure Hub (β : Type) where
  /-- the timings, fixed for the run -/
  timings : Timings
  /-- the sign -/
  sign : Sign
  /-- nobody has asked for the end yet -/
  running : Bool
  /-- the bus client -/
  bus : β
  /-- everything that was said -/
  journal : Journal

namespace Hub

variable {β : Type}

/-- The start of a run. -/
def new (timings : Timings) (bus : β) : Hub β := ⟨timings, .new, true, bus, []⟩

/-- Asks for the end. The answer is true for the first one to ask. -/
def requestEnd (hub : Hub β) : Bool × Hub β := (hub.running, { hub with running := false })

/-- Makes a remark. -/
def say (level : Level) (text : String) (hub : Hub β) : Hub β :=
  { hub with journal := hub.journal ++ [⟨level, text⟩] }

/-- Changes the sign. -/
def mapSign (f : Sign → Sign) (hub : Hub β) : Hub β := { hub with sign := f hub.sign }

/-- Runs a request to the bus. A request that is turned down leads to a remark. -/
def request (operation : Attempt β BusError Unit) (complaint : BusError → Remark) (hub : Hub β) :
    Hub β :=
  match operation hub.bus with
  | (.ok (), bus) => { hub with bus := bus }
  | (.error e, bus) => { hub with bus := bus, journal := hub.journal ++ [complaint e] }

/-- The bus is left as the request leaves it, taken or turned down. -/
theorem request_bus (operation : Attempt β BusError Unit) (complaint : BusError → Remark)
    (hub : Hub β) : (hub.request operation complaint).bus = (operation hub.bus).2 := by
  rw [request]
  rcases operation hub.bus with ⟨_ | _, _⟩ <;> rfl

end Hub

end Marquee
