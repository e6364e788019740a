import Marquee.Link.Channel

/-!
# Faulty channels

A channel on which single operations fail. Every write begins a new round: what is written is a
request, then it is flushed, and then the header and the rest of the answer are read. A plan says
for each round which of its operations fail and how. A failed operation does not reach the
channel, so that a failed write hands nothing over, a failed read takes nothing and a failed
discard drops nothing.
-/

namespace Marquee

/-- The failures of one round. -/
structure Faults where
  /-- of the write that begins the round -/
  write : Option ChannelError
  /-- of a flush -/
  flush : Option ChannelError
  /-- of the first read -/
  header : Option ChannelError
  /-- of every later read -/
  payload : Option ChannelError
  /-- of a discard -/
  discard : Option ChannelError
deriving DecidableEq

/-- Nothing fails. -/
def Faults.clear : Faults := ⟨none, none, none, none, none⟩

/-- A channel with a plan of its failures. -/
structure Faulty (σ : Type) where
  /-- the channel behind the failures -/
  channel : σ
  /-- the failures of every round -/
  plan : Nat → Faults
  /-- how many rounds have begun -/
  begun : Nat
  /-- the failures of the round that began last -/
  current : Faults
  /-- the first read of that round is over -/
  headerRead : Bool

namespace Faulty

variable {σ : Type}

/-- A channel that has not been used. -/
def ofChannel (channel : σ) (plan : Nat → Faults) : Faulty σ := ⟨channel, plan, 0, .clear, false⟩

/-- Changes the channel behind the failures. -/
def mapChannel (f : σ → σ) (t : Faulty σ) : Faulty σ := { t with channel := f t.channel }

/-- Begins the next round. -/
def begin (t : Faulty σ) : Faulty σ :=
  { t with begun := t.begun + 1, current := t.plan t.begun, headerRead := false }

/-- The failure of the next read. -/
def readFault (t : Faulty σ) : Option ChannelError :=
  if t.headerRead then t.current.payload else t.current.header

/-- Runs an operation on the channel, unless it is to fail. -/
def through {α : Type} (fault : Option ChannelError) (operation : Attempt σ ChannelError α) :
    Attempt (Faulty σ) ChannelError α := fun t =>
  match fault with
  | some e => (.error e, t)
  | none => ((operation t.channel).1, { t with channel := (operation t.channel).2 })

instance [Channel σ] : Channel (Faulty σ) where
  write bytes := fun t => through t.begin.current.write (Channel.write bytes) t.begin
  flush := fun t => through t.current.flush Channel.flush t
  read n := fun t => through t.readFault (Channel.read n) { t with headerRead := true }
  discard := fun t => through t.current.discard Channel.discard t
  takeRemarks t :=
    let (remarks, channel) := Channel.takeRemarks t.channel
    (remarks, { t with channel := channel })

end Faulty

end Marquee
