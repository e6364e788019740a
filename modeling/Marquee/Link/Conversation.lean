import Marquee.Link.Calls
import Marquee.Link.Exchange
import Marquee.Link.Faulty
import Marquee.Link.Tapped
import Marquee.Panel.Line

/-!
# Conversations and dialogues with a panel

A series of calls on one panel, with every exchange on record. Between two calls the panel may stop
answering or answer again. A conversation goes over a line that may fail; a dialogue goes over one
that never fails, and every byte that is sent is on record as well.
-/

namespace Marquee

/-- Something that happens between a host and a panel. -/
inductive Contact
  /-- the host makes a call -/
  | call (call : Call)
  /-- the panel answers from now on, or does not answer any more -/
  | responsive (on : Bool)

/-! ## Conversations -/

/-- A link to an emulated panel over a faulty line. -/
abbrev FaultyLink : Type := ChannelLink (Faulty PanelLine)

/-- The line behind a link. -/
def FaultyLink.line (link : FaultyLink) : PanelLine := link.channel.channel

/-- A conversation so far. -/
abbrev Conversation : Type := Recorder FaultyLink

namespace Conversation

/-- A conversation that has not begun, with the failures that it will meet. -/
def start (p : Firmware) (plan : Nat → Faults) : Conversation :=
  .ofLink ⟨.ofChannel (.ofPanel p) plan⟩

/-- The conversation after something has happened. -/
def after (c : Conversation) : Contact → Conversation
  | .call call => (call.perform c).2
  | .responsive on => c.mapLink fun link => ⟨link.channel.mapChannel (.setResponsive on)⟩

/-- The conversation after all that has happened. -/
def course (contacts : List Contact) (c : Conversation) : Conversation := contacts.foldl after c

end Conversation

/-- If the exchange brought an answer, it is what the panel answers to this very request. -/
def ExchangeRecord.Own (r : ExchangeRecord FaultyLink) : Prop :=
  ∀ answer, r.outcome = .ok answer →
    ∃ request, Frame.new? r.opcode.toByte r.payload = .ok request ∧
      answer = (r.before.line.panel.answer request).1.payload.toList

/-! ## Dialogues -/

/-- A dialogue so far. -/
abbrev Dialogue : Type := Recorder (ChannelLink (Tapped PanelLine))

namespace Dialogue

/-- A dialogue that has not begun. -/
def start (p : Firmware) : Dialogue := .ofLink ⟨.ofChannel (.ofPanel p)⟩

/-- The dialogue after something has happened. -/
def after (d : Dialogue) : Contact → Dialogue
  | .call call => (call.perform d).2
  | .responsive on => d.mapLink fun link => ⟨link.channel.mapChannel (.setResponsive on)⟩

/-- The dialogue after all that has happened. -/
def course (contacts : List Contact) (d : Dialogue) : Dialogue := contacts.foldl after d

/-- The line. -/
def line (d : Dialogue) : PanelLine := d.link.channel.channel

/-- All bytes sent. -/
def sent (d : Dialogue) : List UInt8 := d.link.channel.sent

/-- What was asked for, and what it brought. -/
def brought (d : Dialogue) : List (Opcode × List UInt8 × Except LinkError (List UInt8)) :=
  d.log.map fun r => (r.opcode, r.payload, r.outcome)

end Dialogue

end Marquee
