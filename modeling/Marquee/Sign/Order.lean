import Marquee.Text.Utf8

/-!
# Orders from the bus

Orders arrive on the bus as a topic and payload bytes. Power and inversion are switches with the
exact payloads `ON` and `OFF`; a message is any UTF-8 text. The state of each switch is echoed on
a topic of its own.
-/

namespace Marquee

namespace Topic

/-- Echo of the power state. -/
def power : String := "hexascroller/power"

/-- Orders to power the panels. -/
def powerOrder : String := "hexascroller/power/set"

/-- Echo of the inversion. -/
def inversion : String := "hexascroller/invert"

/-- Orders to invert the picture. -/
def inversionOrder : String := "hexascroller/invert/set"

/-- Messages to show. -/
def message : String := "hexascroller/message"

/-- Whether the program is there. -/
def available : String := "hexascroller/available"

/-- The topics that orders arrive on. -/
def orders : List String := [powerOrder, inversionOrder, message]

end Topic

/-- The payload on `Topic.available` while the program is there. -/
def onlinePayload : String := "online"

/-- The payload on `Topic.available` once it has gone. -/
def offlinePayload : String := "offline"

/-- What can be wrong with an order. -/
inductive OrderError
  /-- no orders arrive on this topic -/
  | unknownTopic
  /-- neither on nor off -/
  | invalidSwitch
  /-- the bytes are no text -/
  | invalidUtf8
deriving DecidableEq

/-- The wording of an order error. -/
def OrderError.message : OrderError → String
  | .unknownTopic => "unrecognized topic"
  | .invalidSwitch => "switch payload must be ON or OFF"
  | .invalidUtf8 => "message payload is not valid UTF-8"

/-- An order from the bus. -/
inductive Order
  /-- the panels are to be powered or not -/
  | power (on : Bool)
  /-- lit and dark are to be exchanged or not -/
  | inversion (on : Bool)
  /-- a text to show -/
  | message (text : String)
deriving DecidableEq

/-- The payload for the state of a switch. -/
def switchPayload (on : Bool) : String := if on then "ON" else "OFF"

/-- The state of a switch from its exact payload. -/
def switchOf? (payload : List UInt8) : Except OrderError Bool :=
  if payload = Text.utf8 (switchPayload true) then .ok true
  else if payload = Text.utf8 (switchPayload false) then .ok false
  else .error .invalidSwitch

/-- The order in a bus message. -/
def Order.of? (topic : String) (payload : List UInt8) : Except OrderError Order :=
  if topic = Topic.powerOrder then (switchOf? payload).map .power
  else if topic = Topic.inversionOrder then (switchOf? payload).map .inversion
  else if topic = Topic.message then
    match Text.ofUtf8? payload with
    | some text => .ok (.message text)
    | none => .error .invalidUtf8
  else .error .unknownTopic

end Marquee
