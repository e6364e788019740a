import Marquee.Link.Tapped
import Marquee.Proofs.Link.Calls
import Marquee.Proofs.Link.Exchange

/-!
# Links over a tapped channel

A tap records what is written. An exchange writes the bytes of its frame and nothing else
(`exchange_sent`), and a payload that fits no frame leaves the channel alone. A tap on which no
fault is set cannot be told from the channel behind it (`Tapped.related`), and neither can the
links over the two (`ChannelLink.exchange_related`).
-/

namespace Marquee

variable {σ σ' : Type} [Channel σ] [Channel σ'] {R : σ → σ' → Prop}

/-! ## Channels that cannot be told apart -/

/-- On related channels operations answer the same and leave related channels behind. -/
structure Channel.Related (R : σ → σ' → Prop) : Prop where
  /-- writes do -/
  write (bytes : List UInt8) : Attempt.Related R (Channel.write bytes) (Channel.write bytes)
  /-- flushes do -/
  flush : Attempt.Related R Channel.flush Channel.flush
  /-- reads do -/
  read (n : Nat) : Attempt.Related R (Channel.read n) (Channel.read n)
  /-- discards do -/
  discard : Attempt.Related R Channel.discard Channel.discard

namespace ChannelLink

/-- The links over related channels. -/
def Over (R : σ → σ' → Prop) (link : ChannelLink σ) (link' : ChannelLink σ') : Prop :=
  R link.channel link'.channel

omit [Channel σ] [Channel σ'] in
theorem step_related {α : Type} {one : Attempt σ ChannelError α} {other : Attempt σ' ChannelError α}
    (h : Attempt.Related R one other) (opcode : UInt8) :
    Attempt.Related (Over R) (step opcode one) (step opcode other) := by
  intro link link' hlink
  obtain ⟨hanswer, hchannel⟩ := h hlink
  rcases h₁ : one link.channel with ⟨answer, s⟩
  rcases h₂ : other link'.channel with ⟨answer', s'⟩
  rw [h₁, h₂] at hanswer hchannel
  obtain rfl : answer = answer' := hanswer
  cases answer with
  | ok a =>
    rw [step_of_ok h₁, step_of_ok h₂]
    exact ⟨rfl, hchannel⟩
  | error e =>
    rw [step_of_error h₁, step_of_error h₂]
    exact ⟨rfl, hchannel⟩

theorem readPart_related (h : Channel.Related R) (opcode : UInt8) (n : Nat) :
    Attempt.Related (Over R) (readPart opcode n) (readPart opcode n) := by
  intro link link' hlink
  obtain ⟨hanswer, hchannel⟩ := h.read n hlink
  rcases h₁ : Channel.read n link.channel with ⟨answer, s⟩
  rcases h₂ : Channel.read n link'.channel with ⟨answer', s'⟩
  rw [h₁, h₂] at hanswer hchannel
  obtain rfl : answer = answer' := hanswer
  cases answer with
  | ok bytes =>
    rw [readPart_of_ok opcode h₁, readPart_of_ok opcode h₂]
    exact ⟨rfl, hchannel⟩
  | error e =>
    by_cases he : e = .timeout
    · subst he
      rw [readPart_of_timeout opcode h₁, readPart_of_timeout opcode h₂]
      exact ⟨rfl, (h.discard hchannel).2⟩
    · rw [readPart_of_failure opcode he h₁, readPart_of_failure opcode he h₂]
      exact ⟨rfl, hchannel⟩

/-- Links over channels that cannot be told apart cannot be told apart. -/
theorem exchange_related (h : Channel.Related R) : Link.Related (Over R) := by
  intro opcode payload
  change Attempt.Related _ (exchange opcode payload) (exchange opcode payload)
  unfold exchange
  cases Frame.new? opcode.toByte payload with
  | error e => exact Attempt.related_throw _
  | ok request =>
    refine (step_related (h.write _) _).bind fun _ => ?_
    refine (step_related h.flush _).bind fun _ => ?_
    refine (readPart_related h _ _).bind fun header => ?_
    refine (readPart_related h _ _).bind fun answer => ?_
    split
    · exact Attempt.related_pure _
    · exact Attempt.related_throw _

end ChannelLink

/-! ## Taps -/

namespace Tapped

section Operations

variable {t : Tapped σ} {bytes : List UInt8} {s : σ} {e : ChannelError}

theorem write_of_fault (h : t.fault .write = some e) : Channel.write bytes t = (.error e, t) := by
  simp only [Channel.write, through, h]

theorem write_of_error (h : t.fault .write = none)
    (hw : Channel.write bytes t.channel = (.error e, s)) :
    Channel.write bytes t = (.error e, { t with channel := s }) := by
  simp only [Channel.write, through, h, hw]

theorem write_of_ok (h : t.fault .write = none) (hw : Channel.write bytes t.channel = (.ok (), s)) :
    Channel.write bytes t = (.ok (), { t with channel := s, sent := t.sent ++ bytes }) := by
  simp only [Channel.write, through, h, hw]

omit [Channel σ] in
/-- Only a write adds to what was sent. -/
theorem through_sent {α : Type} (kind : ChannelOperation) (operation : Attempt σ ChannelError α)
    (t : Tapped σ) : (through kind operation t).2.sent = t.sent := by
  unfold through
  split <;> rfl

/-- An accepted write is recorded. -/
theorem sent_of_ok {t' : Tapped σ} (h : Channel.write bytes t = (.ok (), t')) :
    t'.sent = t.sent ++ bytes := by
  cases hfault : t.fault .write with
  | some e =>
    rw [write_of_fault hfault] at h
    cases h
  | none =>
    rcases hw : Channel.write bytes t.channel with ⟨e | _, s⟩
    · rw [write_of_error hfault hw] at h
      cases h
    · rw [write_of_ok hfault hw] at h
      cases h
      rfl

end Operations

/-- An exchange sends the bytes of its frame and nothing else. -/
theorem exchange_sent {opcode : Opcode} {payload : List UInt8} {request : Frame} {t : Tapped σ}
    (hr : Frame.new? opcode.toByte payload = .ok request)
    (accepted : (Channel.write request.encode t).1 = .ok ()) :
    (ChannelLink.exchange opcode payload ⟨t⟩).2.channel.sent = t.sent ++ request.encode := by
  have hw : Channel.write request.encode t =
      (.ok (), (Channel.write request.encode t).2) := Prod.ext accepted rfl
  refine ChannelLink.exchange_written (P := fun t' => t'.sent = t.sent ++ request.encode)
    ?_ ?_ ?_ hr hw (sent_of_ok hw)
  · intro t' h
    exact (through_sent .flush Channel.flush _).trans h
  · intro n t' h
    exact (through_sent .read (Channel.read n) t').trans h
  · intro t' h
    exact (through_sent .discard Channel.discard _).trans h

/-- No fault is set, and the channel behind the tap is this one. -/
def On (t : Tapped σ) (s : σ) : Prop := (∀ kind, t.fault kind = none) ∧ t.channel = s

omit [Channel σ] in
/-- A tap that meets no fault makes no difference to an operation. -/
theorem through_related {α : Type} (kind : ChannelOperation)
    (operation : Attempt σ ChannelError α) :
    Attempt.Related On (through kind operation) operation := by
  rintro t s ⟨h, rfl⟩
  rw [through, h kind]
  exact ⟨rfl, h, rfl⟩

/-- A tap without faults cannot be told from the channel behind it. -/
theorem related : Channel.Related (On : Tapped σ → σ → Prop) where
  write bytes := by
    rintro t s ⟨h, rfl⟩
    rcases hw : Channel.write bytes t.channel with ⟨e | _, s⟩
    · rw [write_of_error (h .write) hw]
      exact ⟨rfl, h, rfl⟩
    · rw [write_of_ok (h .write) hw]
      exact ⟨rfl, h, rfl⟩
  flush := by
    rintro t s ⟨h, rfl⟩
    exact through_related .flush Channel.flush (s := { t with flushes := t.flushes + 1 }) ⟨h, rfl⟩
  read n := through_related .read (Channel.read n)
  discard := by
    rintro t s ⟨h, rfl⟩
    exact through_related .discard Channel.discard (s := { t with discards := t.discards + 1 })
      ⟨h, rfl⟩

end Tapped

end Marquee
