import Marquee.Link.Channel

/-!
# The message bus

The program speaks to a message bus through a client that takes requests without waiting: it
publishes a payload on a topic, subscribes to a topic, and takes its leave. The client may turn a
request down, and then nothing is sent.
-/

namespace Marquee

/-- Why a request was turned down. -/
inductive BusError
  /-- the client did not take the request -/
  | rejected
deriving DecidableEq

/-- The wording of a bus error. -/
def BusError.message : BusError → String
  | .rejected => "mqtt request rejected: Failed to send mqtt requests to eventloop"

/-- A state with a bus client in it. -/
class Bus (β : Type) where
  /-- publishes a payload on a topic, which the bus keeps for later subscribers if asked to -/
  publish : (topic payload : String) → (retain : Bool) → Attempt β BusError Unit
  /-- asks for everything that is published on a topic -/
  subscribe : (topic : String) → Attempt β BusError Unit
  /-- takes leave of the bus -/
  disconnect : Attempt β BusError Unit

/-- A request to the bus. -/
inductive BusRequest
  | publish (topic payload : String) (retain : Bool)
  | subscribe (topic : String)
  | disconnect
deriving DecidableEq

end Marquee
