import Marquee.Link.Basic

/-!
# Panels on a byte channel

Each exchange on a `ChannelLink` is a request and its answer, in this order and nothing else. The
protocol does not number its messages, so the two ends must stay in step: the payload of an
answer is read even when the panel reports a failure, and after a timeout the received bytes are
dropped, so that a late answer is not taken for the next one.
-/

namespace Marquee

/-- A panel that is reached through a byte channel. -/
structure ChannelLink (σ : Type) where
  /-- the channel -/
  channel : σ
deriving DecidableEq

namespace ChannelLink

variable {σ : Type} [Channel σ]

/-- What a failing channel means for the command in progress. -/
def exchangeError (opcode : UInt8) : ChannelError → ExchangeError
  | .timeout => .timeout opcode
  | .disconnected | .other => .io opcode

/-- A channel operation as a part of a command. -/
def step {α : Type} (opcode : UInt8) (operation : Attempt σ ChannelError α) :
    Attempt (ChannelLink σ) LinkError α := fun panel =>
  match operation panel.channel with
  | (.ok a, channel) => (.ok a, ⟨channel⟩)
  | (.error e, channel) => (.error (.exchange (exchangeError opcode e)), ⟨channel⟩)

/-- Reads a part of the answer. After a timeout the received bytes are dropped, as well as that
can be done. -/
def readPart (opcode : UInt8) (n : Nat) : Attempt (ChannelLink σ) LinkError (Bytes n) :=
  fun panel =>
    match step opcode (Channel.read n) panel with
    | (.error (.exchange (.timeout code)), panel) =>
      (.error (.exchange (.timeout code)), ⟨(Channel.discard panel.channel).2⟩)
    | outcome => outcome

/-- Sends one command and waits for its answer. -/
def exchange (opcode : Opcode) (payload : List UInt8) :
    Attempt (ChannelLink σ) LinkError (List UInt8) := do
  match Frame.new? opcode.toByte payload with
  | .error _ => throw (.argument .payloadTooLarge)
  | .ok request =>
    step opcode.toByte (Channel.write request.encode)
    step opcode.toByte Channel.flush
    let header := Header.ofBytes (← readPart opcode.toByte 2)
    let answer ← readPart opcode.toByte header.length.toNat
    if header.isOk then return answer.toList
    else throw (.exchange (.status opcode.toByte statusOk header.status))

instance : Link (ChannelLink σ) where
  exchange := exchange
  takeRemarks panel :=
    let (remarks, channel) := Channel.takeRemarks panel.channel
    (remarks, ⟨channel⟩)

end ChannelLink

end Marquee
