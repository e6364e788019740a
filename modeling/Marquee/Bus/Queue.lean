import Marquee.Bus.Basic

/-!
# The request queue of a client

A client holds requests in a queue until the connection takes them. A full queue turns requests
down; so does the client itself for a publication on a pattern of topics, which needs no place.
-/

namespace Marquee

/-- The most requests that wait for the connection. -/
def queueCapacity : Nat := 32

/-- Requests that wait for the connection. -/
structure RequestQueue where
  /-- the requests, oldest first -/
  waiting : List BusRequest
  /-- they fit the queue -/
  length_le : waiting.length ≤ queueCapacity
deriving DecidableEq

namespace RequestQueue

/-- Nothing waits. -/
def empty : RequestQueue := ⟨[], Nat.zero_le _⟩

/-- Puts a request at the end, if there is a place. -/
def enqueue (request : BusRequest) : Attempt RequestQueue BusError Unit := fun queue =>
  if room : queue.waiting.length < queueCapacity then
    (.ok (), ⟨queue.waiting ++ [request], by
      simp only [List.length_append, List.length_singleton]; exact room⟩)
  else (.error .rejected, queue)

/-- The topic stands for many topics. -/
def isPattern (topic : String) : Bool := topic.toList.any fun c => c == '+' || c == '#'

instance : Bus RequestQueue where
  publish topic payload retain := fun queue =>
    if isPattern topic then (.error .rejected, queue)
    else enqueue (.publish topic payload retain) queue
  subscribe topic := enqueue (.subscribe topic)
  disconnect := enqueue .disconnect

end RequestQueue

end Marquee
