import Marquee.Link.Channel

/-!
# Tapped channels

A tap on a channel shows what goes over it and can make it fail. A fault that is set for one kind
of operation makes every operation of that kind fail before it reaches the channel: a failed write
sends nothing and a failed read takes nothing. Flushes and discards count even when they fail.
-/

namespace Marquee

/-- The kinds of operation on a channel. -/
inductive ChannelOperation
  | write
  | flush
  | read
  | discard
deriving DecidableEq

/-- A channel with a tap on it. -/
structure Tapped (σ : Type) where
  /-- the channel behind the tap -/
  channel : σ
  /-- the fault that each kind of operation meets -/
  fault : ChannelOperation → Option ChannelError
  /-- all bytes that were accepted for sending -/
  sent : List UInt8
  /-- how often a flush was asked for -/
  flushes : Nat
  /-- how often a discard was asked for -/
  discards : Nat

namespace Tapped

variable {σ : Type}

/-- A tap on a channel that has not been used. -/
def ofChannel (channel : σ) : Tapped σ := ⟨channel, fun _ => none, [], 0, 0⟩

/-- Sets or lifts the fault for one kind of operation. -/
def setFault (kind : ChannelOperation) (fault : Option ChannelError) (t : Tapped σ) : Tapped σ :=
  { t with fault := fun k => if k = kind then fault else t.fault k }

/-- Changes the channel behind the tap. -/
def mapChannel (f : σ → σ) (t : Tapped σ) : Tapped σ := { t with channel := f t.channel }

/-- Runs an operation on the channel, unless a fault is set for its kind. -/
def through {α : Type} (kind : ChannelOperation) (operation : Attempt σ ChannelError α) :
    Attempt (Tapped σ) ChannelError α := fun t =>
  match t.fault kind with
  | some e => (.error e, t)
  | none =>
    let (answer, channel) := operation t.channel
    (answer, { t with channel := channel })

instance [Channel σ] : Channel (Tapped σ) where
  write bytes := fun t =>
    match through .write (Channel.write bytes) t with
    | (.ok (), t) => (.ok (), { t with sent := t.sent ++ bytes })
    | (.error e, t) => (.error e, t)
  flush := fun t => through .flush Channel.flush { t with flushes := t.flushes + 1 }
  read n := through .read (Channel.read n)
  discard := fun t => through .discard Channel.discard { t with discards := t.discards + 1 }
  takeRemarks t :=
    let (remarks, channel) := Channel.takeRemarks t.channel
    (remarks, { t with channel := channel })

end Tapped

end Marquee
