import Marquee.Service.ControlSide
import Marquee.Service.PanelSide

/-!
# Both sides at work

The control side and the panel side work at the same time. Each of them holds the sign for one
short section after another, and in between it speaks to the bus or to a panel, so that anything
the other side does can happen there. An `Interplay` is what the sides work on together with the
place where each of them stands: the point that a tick has reached (`TickPoint`), and what the
control side has still to do (`Chore`).

One `Step` of a side touches the sign or the bus at most once. A `Run` is any sequence of steps of
both sides, in any order, as long as nobody has asked for the end.
-/

namespace Marquee

variable {ℓ β : Type}

/-! ## The control side -/

/-- Something that the control side does without holding the sign. -/
inductive Chore
  /-- makes a remark -/
  | say (level : Level) (text : String)
  /-- publishes a payload that the bus keeps -/
  | echo (topic payload : String)
  /-- asks for the orders on a topic -/
  | listen (topic : String)
deriving DecidableEq

namespace Chore

/-- What a greeting has to do once the switches are read. -/
def greeting (powered inverted : Bool) : List Chore :=
  .echo Topic.available onlinePayload :: .echo Topic.power (switchPayload powered) ::
    .echo Topic.inversion (switchPayload inverted) :: Topic.orders.map .listen

/-- What there is to tell about an order that was carried out. -/
def tidings (lifetimeS : Nat) (order : Order) : SignChange → List Chore
  | .power on =>
    [.say .info ("power " ++ switchPayload on), .echo Topic.power (switchPayload on)]
  | .inversion on =>
    [.say .info ("invert " ++ switchPayload on), .echo Topic.inversion (switchPayload on)]
  | .message truncated =>
    (if truncated then
      [.say .warn ("message truncated to " ++ toString maxMessage ++ " bytes")] else []) ++
    match order with
    | .message text =>
      [.say .info ("message " ++ Text.quoted text ++ " for " ++ toString lifetimeS ++ " s")]
    | _ => []

variable [Bus β]

/-- Does it. -/
def perform (chore : Chore) (hub : Hub β) : Hub β :=
  match chore with
  | .say level text => hub.say level text
  | .echo topic payload => hub.echo topic payload
  | .listen topic => hub.listen topic

/-- Does one after another. -/
def performAll (chores : List Chore) (hub : Hub β) : Hub β :=
  chores.foldl (fun hub chore => chore.perform hub) hub

end Chore

/-! ## The panel side -/

/-- The point that a tick has reached between two of its sections. -/
inductive TickPoint
  /-- the clock and the power state are read -/
  | read (now : ClockReading) (powered : Bool)
  /-- the panel has acknowledged the relay state, which is not published yet -/
  | acknowledged (now : ClockReading) (powered : Bool)
  /-- nothing more is to be done about the relay -/
  | kept (now : ClockReading) (powered : Bool)
  /-- the panels are awake -/
  | awake (now : ClockReading)
  /-- the sign was looked at -/
  | looked (now : ClockReading) (view : SignView)
  /-- a bitmap was drawn that the panels are not known to show -/
  | lacking (bitmap : Bitmap)
  /-- all panels have accepted a bitmap -/
  | accepted (bitmap : Bitmap)

/-- One section of a tick. It leads to the next point, or to the end of the tick. -/
def PanelSide.proceed [Link ℓ] [Bus β] (point : TickPoint) (s : PanelSide ℓ β) :
    Option TickPoint × PanelSide ℓ β :=
  match point with
  | .read now powered =>
    if s.relay = some powered then (some (.kept now powered), s)
    else
      match s.switchRelay powered with
      | (.ok (), s) =>
        (some (.acknowledged now powered), s.say .info ("relay " ++ switchPayload powered))
      | (.error e, s) =>
        (some (.kept now powered), s.say .warn ("relay switch failed: " ++ e.message))
  | .acknowledged now powered => (some (.kept now powered), s.publishRelay powered)
  | .kept now powered =>
    let s := s.followPower powered
    (if s.activity.draws then some (.awake now) else none, s)
  | .awake now =>
    let (view, s) := s.look now
    (some (.looked now view), s)
  | .looked now view =>
    let (bitmap, s) := s.draw view now
    (if s.hub.sign.lacks bitmap then some (.lacking bitmap) else none, s)
  | .lacking bitmap =>
    let (accepted, s) := s.writePanels bitmap
    if accepted = panelCount then (some (.accepted bitmap), s)
    else
      (none, s.say .debug
        ("bitmap accepted by " ++ toString accepted ++ "/" ++ toString panelCount ++ " panels"))
  | .accepted bitmap => (none, s.mapHub (Hub.mapSign (Sign.confirm bitmap)))

/-! ## Steps of both sides -/

/-- What a step means for the message and the switches of the sign. -/
inductive Incident
  /-- an order was carried out that came at a time -/
  | ordered (order : Order) (nowMs : Nat)
  /-- a tick looked at the sign at a time, and this is what it saw -/
  | looked (nowMs : Nat) (view : SignView)
  /-- nothing -/
  | quiet

/-- What a section of a tick means for the sign. -/
def TickPoint.incident (point : TickPoint) (s : PanelSide ℓ β) : Incident :=
  match point with
  | .awake now => .looked now.sinceEpochMs (s.look now).1
  | _ => .quiet

/-- Both sides, each somewhere in its work. -/
structure Interplay (ℓ β : Type) where
  /-- the panel side with what it shares -/
  side : PanelSide ℓ β
  /-- the point that a tick has reached, while there is one -/
  point : Option TickPoint
  /-- what the control side has still to do before it takes up something else -/
  chores : List Chore

namespace Interplay

/-- The start of a run: both sides have nothing to do. -/
def start (timings : Timings) (bus : β) (panels : Trio ℓ) : Interplay ℓ β :=
  ⟨.new (.new timings bus) panels, none, []⟩

/-- The sign. -/
def sign (p : Interplay ℓ β) : Sign := p.side.hub.sign

/-- The bus client. -/
def bus (p : Interplay ℓ β) : β := p.side.hub.bus

variable [Link ℓ] [Bus β]

/-- One step of either side, and what it means for the sign. -/
inductive Step : Interplay ℓ β → Incident → Interplay ℓ β → Prop
  /-- the panels come into some other state on their own -/
  | panels (side : PanelSide ℓ β) (point : Option TickPoint) (chores : List Chore)
      (panels : Trio ℓ) :
      Step ⟨side, point, chores⟩ .quiet ⟨{ side with panels := panels }, point, chores⟩
  /-- the control side makes a remark about the connection or about what is no order -/
  | remark (side : PanelSide ℓ β) (point : Option TickPoint) (level : Level) (text : String) :
      Step ⟨side, point, []⟩ .quiet ⟨side.say level text, point, []⟩
  /-- the control side reads the switches for a greeting -/
  | greet (side : PanelSide ℓ β) (point : Option TickPoint) :
      Step ⟨side, point, []⟩ .quiet
        ⟨side, point, Chore.greeting side.hub.sign.powered side.hub.sign.inverted⟩
  /-- the control side has the sign carry out an order -/
  | obey (side : PanelSide ℓ β) (point : Option TickPoint) (order : Order) (nowMs : Nat) :
      Step ⟨side, point, []⟩ (.ordered order nowMs)
        ⟨side.mapHub fun hub => (hub.applyOrder order nowMs).2, point,
          Chore.tidings side.hub.timings.lifetimeS order (side.hub.applyOrder order nowMs).1⟩
  /-- the control side does the next thing that it has to do -/
  | chore (side : PanelSide ℓ β) (point : Option TickPoint) (chore : Chore) (rest : List Chore) :
      Step ⟨side, point, chore :: rest⟩ .quiet ⟨side.mapHub chore.perform, point, rest⟩
  /-- a tick begins and reads the clock and the power state -/
  | begin (side : PanelSide ℓ β) (chores : List Chore) (now : ClockReading) :
      Step ⟨side, none, chores⟩ .quiet
        ⟨side, some (.read now side.hub.sign.powered), chores⟩
  /-- a tick goes through its next section -/
  | proceed (side : PanelSide ℓ β) (point : TickPoint) (chores : List Chore) :
      Step ⟨side, some point, chores⟩ (point.incident side)
        ⟨(side.proceed point).2, (side.proceed point).1, chores⟩

/-- Any sequence of steps, with what it means for the sign, oldest first. -/
inductive Run (p : Interplay ℓ β) : List Incident → Interplay ℓ β → Prop
  /-- no step yet -/
  | refl : Run p [] p
  /-- one more step -/
  | step {past : List Incident} {q r : Interplay ℓ β} {incident : Incident} :
      Run p past q → Step q incident r → Run p (past ++ [incident]) r

end Interplay

end Marquee
