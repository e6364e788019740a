import Marquee.Bytes
import Marquee.Journal

/-!
# Byte channels

A panel hangs on a channel for bytes in both directions. Every operation may fail, and the state
it leaves behind is known in both cases, so operations are written in `Attempt`: failing does not
undo what happened before. A read asks for an exact number of bytes; fewer bytes within the time
limit are a timeout.
-/

namespace Marquee

/-- An operation on a state that may fail. The state afterwards is there in both cases. -/
abbrev Attempt (σ ε : Type) := ExceptT ε (StateM σ)

/-- How a channel can fail. -/
inductive ChannelError
  /-- no data within the time limit -/
  | timeout
  /-- the device went away -/
  | disconnected
  /-- anything else -/
  | other
deriving DecidableEq

/-- A state with a byte channel in it. -/
class Channel (σ : Type) where
  /-- hands bytes over for sending -/
  write : List UInt8 → Attempt σ ChannelError Unit
  /-- waits until all bytes are sent -/
  flush : Attempt σ ChannelError Unit
  /-- takes exactly this many received bytes -/
  read : (n : Nat) → Attempt σ ChannelError (Bytes n)
  /-- drops all bytes that were received and not read -/
  discard : Attempt σ ChannelError Unit
  /-- takes the remarks that the far end has made -/
  takeRemarks : σ → Journal × σ := fun s => ([], s)

/-- Takes one received byte. -/
def Channel.readByte {σ : Type} [Channel σ] : Attempt σ ChannelError UInt8 := do
  let block ← Channel.read 1
  have := block.length_toList
  return block.toList[0]

/-! ## Failures that the operating system names -/

/-- The kinds of failure that a device reports. -/
inductive DeviceFailure
  | timedOut
  | wouldBlock
  | brokenPipe
  | notConnected
  | unexpectedEnd
  | unrelated
deriving DecidableEq

/-- A device that is not ready has timed out, a broken or closed one is gone, and every other
failure is just that. -/
def DeviceFailure.toChannelError : DeviceFailure → ChannelError
  | .timedOut | .wouldBlock => .timeout
  | .brokenPipe | .notConnected | .unexpectedEnd => .disconnected
  | .unrelated => .other

/-! ## A queue of received bytes -/

/-- Takes the first `n` bytes of a queue; a shorter queue is a timeout and stays as it is. -/
def takeExactly (n : Nat) : Attempt (List UInt8) ChannelError (Bytes n) := fun queue =>
  if h : n ≤ queue.length then
    (.ok ⟨queue.take n, List.length_take_of_le h⟩, queue.drop n)
  else (.error .timeout, queue)

theorem takeExactly_of_le {n : Nat} {queue : List UInt8} (h : n ≤ queue.length) :
    takeExactly n queue =
      (.ok ⟨queue.take n, List.length_take_of_le h⟩, queue.drop n) := dif_pos h

theorem takeExactly_of_lt {n : Nat} {queue : List UInt8} (h : queue.length < n) :
    takeExactly n queue = (.error .timeout, queue) := dif_neg (by omega)

/-- A far end that has already said all it will say and does not react to what is written. -/
structure ReplyQueue where
  /-- the bytes still to be read -/
  pending : List UInt8
deriving DecidableEq

instance : Channel ReplyQueue where
  write _ := pure ()
  flush := pure ()
  read n := fun q =>
    let (answer, pending) := takeExactly n q.pending
    (answer, ⟨pending⟩)
  discard := fun _ => (.ok (), ⟨[]⟩)

end Marquee
