import Marquee.Link.Channel

/-!
# Logged channels

A log on a channel tells of every operation that reaches the channel, in order and whatever becomes
of it. A channel with a log works as the one without.
-/

namespace Marquee

/-- An operation that reaches a channel. -/
inductive ChannelAct
  /-- bytes are handed over for sending -/
  | write (bytes : List UInt8)
  /-- all bytes are to be sent -/
  | flush
  /-- this many received bytes are asked for -/
  | read (n : Nat)
  /-- the received bytes are dropped -/
  | discard
deriving DecidableEq

/-- A channel with a log of what has reached it, oldest first. -/
structure Logged (σ : Type) where
  /-- the channel -/
  channel : σ
  /-- what has reached it -/
  log : List ChannelAct
deriving DecidableEq

namespace Logged

variable {σ : Type}

/-- A channel with an empty log. -/
def ofChannel (channel : σ) : Logged σ := ⟨channel, []⟩

/-- Runs an operation on the channel and logs it. -/
def through {α : Type} (act : ChannelAct) (operation : Attempt σ ChannelError α) :
    Attempt (Logged σ) ChannelError α := fun t =>
  ((operation t.channel).1, ⟨(operation t.channel).2, t.log ++ [act]⟩)

instance [Channel σ] : Channel (Logged σ) where
  write bytes := through (.write bytes) (Channel.write bytes)
  flush := through .flush Channel.flush
  read n := through (.read n) (Channel.read n)
  discard := through .discard Channel.discard
  takeRemarks t :=
    let (remarks, channel) := Channel.takeRemarks t.channel
    (remarks, { t with channel := channel })

/-- The bytes of each write, in order. -/
def writes (t : Logged σ) : List (List UInt8) :=
  t.log.filterMap fun act =>
    match act with
    | .write bytes => some bytes
    | _ => none

end Logged

end Marquee
