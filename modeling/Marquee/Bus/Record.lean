import Marquee.Bus.Basic

/-!
# A bus that remembers

`BusRecord` takes every request and remembers it, in order. While it is failing it turns all
requests down and remembers none of them.
-/

namespace Marquee

/-- The requests that were taken. -/
structure BusRecord where
  /-- the requests, oldest first -/
  requests : List BusRequest
  /-- requests are turned down -/
  failing : Bool
deriving DecidableEq

namespace BusRecord

/-- No request yet. -/
def new : BusRecord := ⟨[], false⟩

/-- Takes a request, or turns it down. -/
def take (request : BusRequest) : Attempt BusRecord BusError Unit := fun record =>
  if record.failing then (.error .rejected, record)
  else (.ok (), { record with requests := record.requests ++ [request] })

instance : Bus BusRecord where
  publish topic payload retain := take (.publish topic payload retain)
  subscribe topic := take (.subscribe topic)
  disconnect := take .disconnect

/-- The last payload that was published on a topic. -/
def lastPayload (topic : String) (record : BusRecord) : Option String :=
  record.requests.foldl (fun last request =>
    match request with
    | .publish t payload _ => if t = topic then some payload else last
    | _ => last) none

/-- The payload that the bus keeps on a topic: the last one that was published to be kept. -/
def retained (topic : String) (record : BusRecord) : Option String :=
  record.requests.foldl (fun last request =>
    match request with
    | .publish t payload true => if t = topic then some payload else last
    | _ => last) none

/-- The record with one more request. -/
def add (request : BusRequest) (record : BusRecord) : BusRecord :=
  { record with requests := record.requests ++ [request] }

theorem take_of_accepting (request : BusRequest) {record : BusRecord}
    (h : record.failing = false) : take request record = (.ok (), record.add request) := by
  rw [take, if_neg (Bool.not_eq_true _ ▸ h)]
  rfl

@[simp] theorem lastPayload_add_publish (t topic payload : String) (retain : Bool)
    (record : BusRecord) :
    (record.add (.publish t payload retain)).lastPayload topic =
      if t = topic then some payload else record.lastPayload topic := by
  simp [add, lastPayload]

@[simp] theorem lastPayload_add_subscribe (t topic : String) (record : BusRecord) :
    (record.add (.subscribe t)).lastPayload topic = record.lastPayload topic := by
  simp [add, lastPayload]

@[simp] theorem retained_add_publish (t topic payload : String) (record : BusRecord) :
    (record.add (.publish t payload true)).retained topic =
      if t = topic then some payload else record.retained topic := by
  simp [add, retained]

@[simp] theorem retained_add_subscribe (t topic : String) (record : BusRecord) :
    (record.add (.subscribe t)).retained topic = record.retained topic := by
  simp [add, retained]

end BusRecord

end Marquee
