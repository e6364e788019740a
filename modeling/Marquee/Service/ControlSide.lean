import Marquee.Clock.Time
import Marquee.Service.Hub
import Marquee.Sign.Painter
import Marquee.Text.Quoted

/-!
# The control side

Orders from the bus are carried out on the sign, and a new power state or inversion is echoed on
its own topic for everyone who asks later. What is no order is remarked on and dropped without a
trace in the sign. Messages come one after another, each at a time of its own (`Hub.hearAll`).
-/

namespace Marquee.Hub

variable {β : Type} [Bus β]

/-- Publishes a payload that the bus keeps. -/
def echo (topic payload : String) (hub : Hub β) : Hub β :=
  hub.request (Bus.publish topic payload true) fun e =>
    ⟨.warn, "publish " ++ topic ++ "=" ++ payload ++ " failed: " ++ e.message⟩

/-- Asks for the orders on a topic. -/
def listen (topic : String) (hub : Hub β) : Hub β :=
  hub.request (Bus.subscribe topic) fun e =>
    ⟨.warn, "subscribe " ++ topic ++ " failed: " ++ e.message⟩

/-- Says that the program is there and in which state, and asks for orders. A broker forgets the
subscriptions when the connection ends. -/
def greet (hub : Hub β) : Hub β :=
  let powered := hub.sign.powered
  let inverted := hub.sign.inverted
  let hub := hub.echo Topic.available onlinePayload
  let hub := hub.echo Topic.power (switchPayload powered)
  let hub := hub.echo Topic.inversion (switchPayload inverted)
  Topic.orders.foldl (fun hub topic => hub.listen topic) hub

/-- Says that the panels go dark and the program goes away, and takes leave. -/
def takeLeave (hub : Hub β) : Hub β :=
  let hub := hub.echo Topic.power (switchPayload false)
  let hub := hub.echo Topic.available offlinePayload
  hub.request Bus.disconnect fun e => ⟨.debug, "disconnect: " ++ e.message⟩

/-- Has the sign carry out an order. -/
def applyOrder (order : Order) (nowMs : Nat) (hub : Hub β) : SignChange × Hub β :=
  let (change, sign) := hub.sign.obey hub.timings messageSpan order nowMs
  (change, { hub with sign := sign })

/-- Remarks on a change and echoes it. A message is shown in the remark as it came. -/
def tell (order : Order) (change : SignChange) (hub : Hub β) : Hub β :=
  match change with
  | .power on => (hub.say .info ("power " ++ switchPayload on)).echo Topic.power (switchPayload on)
  | .inversion on =>
    (hub.say .info ("invert " ++ switchPayload on)).echo Topic.inversion (switchPayload on)
  | .message truncated =>
    let hub :=
      if truncated then hub.say .warn ("message truncated to " ++ toString maxMessage ++ " bytes")
      else hub
    match order with
    | .message text =>
      hub.say .info ("message " ++ Text.quoted text ++ " for " ++ toString hub.timings.lifetimeS ++
        " s")
    | _ => hub

/-- Takes one bus message. The answer is what it changed. -/
def hear (now : ClockReading) (topic : String) (payload : List UInt8) (hub : Hub β) :
    Option SignChange × Hub β :=
  match Order.of? topic payload with
  | .error e =>
    (none, hub.say .warn ("ignoring message on " ++ topic ++ ": " ++ e.message))
  | .ok order =>
    let (change, hub) := hub.applyOrder order now.sinceEpochMs
    (some change, hub.tell order change)

end Marquee.Hub

namespace Marquee

/-- What the connection to the bus reports. -/
inductive Notification
  /-- the broker has accepted the connection -/
  | connected
  /-- a message on a topic -/
  | published (topic : String) (payload : List UInt8)
  /-- the leave of the program has gone out -/
  | left
  /-- the connection failed -/
  | failed (reason : String)
  /-- anything else -/
  | other

namespace Hub

variable {β : Type} [Bus β]

/-- The end of the control side. -/
def endControl (hub : Hub β) : Hub β := hub.say .debug "control loop stopped"

/-- Works through the notifications of a connection, each at its own time. The work ends when the
leave has gone out, and with the first failure once the end was asked for; from then on orders
are no longer heard. -/
def runControl : List (ClockReading × Notification) → Hub β → Hub β
  | [], hub => hub.endControl
  | (now, notification) :: rest, hub =>
    match notification with
    | .connected =>
      if hub.running then runControl rest (hub.say .info "connected to broker").greet
      else runControl rest hub
    | .published topic payload =>
      if hub.running then runControl rest (hub.hear now topic payload).2
      else runControl rest hub
    | .left => hub.endControl
    | .failed reason =>
      if hub.running then runControl rest (hub.say .warn ("broker connection: " ++ reason))
      else hub.endControl
    | .other => runControl rest hub

end Hub

/-! ## One bus message after another -/

/-- A message on the bus that comes in. -/
structure BusMessage where
  /-- the reading of the clock when it comes -/
  now : ClockReading
  /-- its topic -/
  topic : String
  /-- its payload -/
  payload : List UInt8
deriving DecidableEq

namespace Hub

variable {β : Type} [Bus β]

/-- Takes bus messages one after another. The answers are what each of them changed. -/
def hearAll : List BusMessage → Hub β → List (Option SignChange) × Hub β
  | [], hub => ([], hub)
  | m :: rest, hub =>
    let (change, hub) := hub.hear m.now m.topic m.payload
    let (changes, hub) := hearAll rest hub
    (change :: changes, hub)

end Hub

end Marquee
