import Marquee.Link.Conversation
import Marquee.Proofs.Link.Line

/-!
# One exchange over a faulty line

An exchange over a faulty line ends where its first failure is, or where the panel has said too
little. `Exchanged` lists all the ways in which it can end, each with what it brings and what it
leaves behind on the line, and `exchange_faulty` says that there are no others.
-/

namespace Marquee

/-- What a failed read leaves behind. After a timeout what was received is dropped, unless that
fails as well. -/
def Faults.leave (faults : Faults) (e : ChannelError) (l : PanelLine) : PanelLine :=
  if e = .timeout ∧ faults.discard = none then { l with pending := [] } else l

@[simp] theorem Faults.leave_reader (faults : Faults) (e : ChannelError) (l : PanelLine) :
    (faults.leave e l).reader = l.reader := by
  rw [leave]
  split <;> rfl

@[simp] theorem Faults.leave_panel (faults : Faults) (e : ChannelError) (l : PanelLine) :
    (faults.leave e l).panel = l.panel := by
  rw [leave]
  split <;> rfl

/-- Only a timeout that is followed by a discard without a fault empties the line. -/
theorem Faults.leave_pending (faults : Faults) (e : ChannelError) (l : PanelLine) :
    (faults.leave e l).pending =
      if e = .timeout ∧ faults.discard = none then [] else l.pending := by
  rw [leave]
  split <;> rfl

/-- How an exchange can end, with what it brings and the line that it leaves behind. -/
inductive Exchanged (opcode : UInt8) (faults : Faults) (request : Frame) (l : PanelLine) :
    Except LinkError (List UInt8) → PanelLine → Prop
  /-- the write fails -/
  | write {e : ChannelError} (hw : faults.write = some e) :
    Exchanged opcode faults request l
      (.error (.exchange (ChannelLink.exchangeError opcode e))) l
  /-- the flush fails, when the panel has the request already -/
  | flush {e : ChannelError} (hw : faults.write = none) (hf : faults.flush = some e) :
    Exchanged opcode faults request l
      (.error (.exchange (ChannelLink.exchangeError opcode e))) (l.deliver request)
  /-- the header cannot be read -/
  | header {e : ChannelError} (hw : faults.write = none) (hf : faults.flush = none)
      (hh : faults.header = some e ∨
        faults.header = none ∧ e = .timeout ∧ (l.deliver request).pending.length < 2) :
    Exchanged opcode faults request l
      (.error (.exchange (ChannelLink.exchangeError opcode e)))
      (faults.leave e (l.deliver request))
  /-- the header can be read, and the payload that it announces cannot -/
  | payload {e : ChannelError} {header : Bytes 2} {rest : List UInt8} (hw : faults.write = none)
      (hf : faults.flush = none) (hh : faults.header = none)
      (hq : (l.deliver request).pending = header.toList ++ rest)
      (hp : faults.payload = some e ∨
        faults.payload = none ∧ e = .timeout ∧
          rest.length < (Header.ofBytes header).length.toNat) :
    Exchanged opcode faults request l
      (.error (.exchange (ChannelLink.exchangeError opcode e)))
      (faults.leave e { l.deliver request with pending := rest })
  /-- header and payload can be read, and the status decides -/
  | answer {header : Bytes 2} {answer : Bytes (Header.ofBytes header).length.toNat}
      {rest : List UInt8} (hw : faults.write = none) (hf : faults.flush = none)
      (hh : faults.header = none) (hp : faults.payload = none)
      (hq : (l.deliver request).pending = header.toList ++ (answer.toList ++ rest)) :
    Exchanged opcode faults request l
      (if (Header.ofBytes header).isOk then .ok answer.toList
        else .error (.exchange (.status opcode statusOk (Header.ofBytes header).status)))
      { l.deliver request with pending := rest }

namespace Faulty

variable {t : Faulty PanelLine}

/-- A write that meets a fault begins an exchange and hands nothing over. -/
theorem write_of_fault {e : ChannelError} (h : (t.plan t.begun).write = some e)
    (bytes : List UInt8) : Channel.write bytes t = (.error e, t.begin) := by
  change through (t.plan t.begun).write _ t.begin = _
  rw [h]
  rfl

/-- A write that meets no fault has the panel answer the frame, if the panel waits for one. -/
theorem write_of_none (h : (t.plan t.begun).write = none) (hidle : t.channel.reader = .idle)
    (request : Frame) :
    Channel.write request.encode t =
      (.ok (), { t.begin with channel := t.channel.deliver request }) := by
  change through (t.plan t.begun).write _ t.begin = _
  rw [h]
  exact congrArg (fun result => (result.1, { t.begin with channel := result.2 }))
    (PanelLine.write_encode hidle request)

theorem flush_of_fault {e : ChannelError} (h : t.current.flush = some e) :
    Channel.flush t = (.error e, t) := by
  change through t.current.flush _ t = _
  rw [h]
  rfl

theorem flush_of_none (h : t.current.flush = none) : Channel.flush t = (.ok (), t) := by
  change through t.current.flush _ t = _
  rw [h]
  rfl

/-- A read that meets a fault takes nothing from the line. -/
theorem read_of_fault {e : ChannelError} (h : t.readFault = some e) (n : Nat) :
    Channel.read n t = (.error e, { t with headerRead := true }) := by
  change through t.readFault _ _ = _
  rw [h]
  rfl

/-- A read that meets no fault takes the first bytes from the line. -/
theorem read_of_pending (h : t.readFault = none) {n : Nat} {block : Bytes n} {rest : List UInt8}
    (hq : t.channel.pending = block.toList ++ rest) :
    Channel.read n t =
      (.ok block,
        { t with headerRead := true, channel := { t.channel with pending := rest } }) := by
  change through t.readFault _ _ = _
  rw [h]
  exact congrArg (fun result => (result.1, { t with headerRead := true, channel := result.2 }))
    (PanelLine.read_of_pending hq)

/-- A read of more bytes than there are times out and leaves them. -/
theorem read_of_short (h : t.readFault = none) {n : Nat} (hq : t.channel.pending.length < n) :
    Channel.read n t = (.error .timeout, { t with headerRead := true }) := by
  change through t.readFault _ _ = _
  rw [h]
  exact congrArg (fun result => (result.1, { t with headerRead := true, channel := result.2 }))
    (PanelLine.read_of_short hq)

end Faulty

/-- A long enough queue begins with a block. -/
theorem exists_block {n : Nat} {queue : List UInt8} (h : n ≤ queue.length) :
    ∃ (block : Bytes n) (rest : List UInt8), queue = block.toList ++ rest :=
  ⟨⟨queue.take n, List.length_take_of_le h⟩, queue.drop n, (List.take_append_drop n queue).symm⟩

namespace ChannelLink

/-- After a read that failed only a timeout makes a difference. -/
theorem readPart_of_failed {t t' : Faulty PanelLine} (opcode : UInt8) {n : Nat} {e : ChannelError}
    (h : Channel.read n t = (.error e, t')) :
    readPart opcode n ⟨t⟩ =
      (.error (.exchange (exchangeError opcode e)), ⟨t'.mapChannel (t'.current.leave e)⟩) := by
  by_cases he : e = .timeout
  · subst he
    rw [readPart_of_timeout _ h]
    change (_, ChannelLink.mk (Faulty.through t'.current.discard _ t').2) = _
    rw [Faulty.mapChannel, Faults.leave]
    cases t'.current.discard <;> rfl
  · have hio : exchangeError opcode e = .io opcode := by
      cases e with
      | timeout => exact absurd rfl he
      | disconnected | other => rfl
    have hleave : t'.current.leave e t'.channel = t'.channel := if_neg fun h => he h.1
    rw [readPart_of_failure _ he h, hio, Faulty.mapChannel, hleave]

section Rounds

variable {t : Faulty PanelLine} {opcode : Opcode} {payload : List UInt8} {request : Frame}

/-- An exchange that goes on to the payload. -/
theorem exchange_headed (hr : Frame.new? opcode.toByte payload = .ok request)
    (hidle : t.channel.reader = .idle) (hw : (t.plan t.begun).write = none)
    (hf : (t.plan t.begun).flush = none) (hh : (t.plan t.begun).header = none) {header : Bytes 2}
    {rest : List UInt8} (hq : (t.channel.deliver request).pending = header.toList ++ rest) :
    ∃ outcome t', exchange opcode payload ⟨t⟩ = (outcome, ⟨t'⟩) ∧
      t'.plan = t.plan ∧ t'.begun = t.begun + 1 ∧
      Exchanged opcode.toByte (t.plan t.begun) request t.channel outcome t'.channel := by
  let t₁ : Faulty PanelLine := { t.begin with channel := t.channel.deliver request }
  let t₂ : Faulty PanelLine :=
    { t₁ with headerRead := true, channel := { t.channel.deliver request with pending := rest } }
  have written := Faulty.write_of_none hw hidle request
  have flushed : Channel.flush t₁ = (.ok (), t₁) := Faulty.flush_of_none hf
  have headed : readPart opcode.toByte 2 ⟨t₁⟩ = (.ok header, ⟨t₂⟩) :=
    readPart_of_ok _ (Faulty.read_of_pending (t := t₁) hh hq)
  cases hp : (t.plan t.begun).payload with
  | some e =>
    have failed := Faulty.read_of_fault (t := t₂) hp (Header.ofBytes header).length.toNat
    exact ⟨_, _, exchange_of_payload hr written flushed headed (readPart_of_failed _ failed), rfl,
      rfl, .payload hw hf hh hq (.inl hp)⟩
  | none =>
    by_cases short : rest.length < (Header.ofBytes header).length.toNat
    · have failed := Faulty.read_of_short (t := t₂) hp short
      exact ⟨_, _, exchange_of_payload hr written flushed headed (readPart_of_failed _ failed), rfl,
        rfl, .payload hw hf hh hq (.inr ⟨hp, rfl, short⟩)⟩
    · obtain ⟨answer, rest', rfl⟩ := exists_block (Nat.not_lt.mp short)
      have answered := readPart_of_ok opcode.toByte (Faulty.read_of_pending (t := t₂) hp rfl)
      exact ⟨_, _, exchange_of_answer hr written flushed headed answered, rfl, rfl,
        .answer hw hf hh hp hq⟩

/-- An exchange that goes on to the header. -/
theorem exchange_delivered (hr : Frame.new? opcode.toByte payload = .ok request)
    (hidle : t.channel.reader = .idle) (hw : (t.plan t.begun).write = none)
    (hf : (t.plan t.begun).flush = none) :
    ∃ outcome t', exchange opcode payload ⟨t⟩ = (outcome, ⟨t'⟩) ∧
      t'.plan = t.plan ∧ t'.begun = t.begun + 1 ∧
      Exchanged opcode.toByte (t.plan t.begun) request t.channel outcome t'.channel := by
  let t₁ : Faulty PanelLine := { t.begin with channel := t.channel.deliver request }
  have written := Faulty.write_of_none hw hidle request
  have flushed : Channel.flush t₁ = (.ok (), t₁) := Faulty.flush_of_none hf
  cases hh : (t.plan t.begun).header with
  | some e =>
    have failed := Faulty.read_of_fault (t := t₁) hh 2
    exact ⟨_, _, exchange_of_header hr written flushed (readPart_of_failed _ failed), rfl, rfl,
      .header hw hf (.inl hh)⟩
  | none =>
    by_cases short : (t.channel.deliver request).pending.length < 2
    · have failed := Faulty.read_of_short (t := t₁) hh short
      exact ⟨_, _, exchange_of_header hr written flushed (readPart_of_failed _ failed), rfl, rfl,
        .header hw hf (.inr ⟨hh, rfl, short⟩)⟩
    · obtain ⟨header, rest, hq⟩ := exists_block (Nat.not_lt.mp short)
      exact exchange_headed hr hidle hw hf hh hq

/-- An exchange over a faulty line is one round, and ends in one of these ways. -/
theorem exchange_faulty (hr : Frame.new? opcode.toByte payload = .ok request)
    (hidle : t.channel.reader = .idle) :
    ∃ outcome t', exchange opcode payload ⟨t⟩ = (outcome, ⟨t'⟩) ∧
      t'.plan = t.plan ∧ t'.begun = t.begun + 1 ∧
      Exchanged opcode.toByte (t.plan t.begun) request t.channel outcome t'.channel := by
  cases hw : (t.plan t.begun).write with
  | some e =>
    have failed := Faulty.write_of_fault hw request.encode
    exact ⟨_, _, exchange_of_write hr failed, rfl, rfl, .write hw⟩
  | none =>
    cases hf : (t.plan t.begun).flush with
    | some e =>
      have written := Faulty.write_of_none hw hidle request
      exact ⟨_, _, exchange_of_flush hr written (Faulty.flush_of_fault hf), rfl, rfl,
        .flush hw hf⟩
    | none => exact exchange_delivered hr hidle hw hf

end Rounds

end ChannelLink

end Marquee
