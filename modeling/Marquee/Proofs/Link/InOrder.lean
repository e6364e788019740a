import Marquee.History
import Marquee.Proofs.Link.Calls
import Marquee.Proofs.Link.Faulty

/-!
# Conversations in order

The protocol does not number its messages, so an exchange that brings an answer brings the oldest
one that was not read. A round that fails between its write and the end of its reads abandons an
answer, and the answer is owed (`Owed`) until a timeout drops what was received. As long as no
answer is owed, no byte waits to be read, and every answer is the panel's to the very request: the
invariant `InOrder`, which every round keeps in which an answer can only come when none is owed.
-/

namespace Marquee

namespace Faults

/-- The failure of the reads of a round. -/
def answer (faults : Faults) : Option ChannelError := faults.header.or faults.payload

/-- The request reaches the panel, and the answer is not read as a whole. A timeout of a read leaves
nothing behind, unless the discard fails as well. -/
def Abandons (faults : Faults) : Prop :=
  faults.write = none ∧
    (faults.flush ≠ none ∨ ∃ e, faults.answer = some e ∧ (e ≠ .timeout ∨ faults.discard ≠ none))

/-- A read meets a timeout, and what was received is dropped. -/
def Drains (faults : Faults) : Prop :=
  faults.write = none ∧ faults.flush = none ∧ faults.answer = some .timeout ∧ faults.discard = none

/-- The request reaches the panel, and no read fails. -/
def Passes (faults : Faults) : Prop :=
  faults.write = none ∧ faults.flush = none ∧ faults.answer = none

variable {faults : Faults} {e : ChannelError}

/-- A fault of the header is the first one that the answer meets. -/
theorem answer_of_header (hh : faults.header = some e) : faults.answer = some e := by
  rw [answer, hh, Option.some_or]

theorem answer_of_payload (hh : faults.header = none) : faults.answer = faults.payload := by
  rw [answer, hh, Option.none_or]

theorem abandons_of_flush (hw : faults.write = none) (hf : faults.flush = some e) :
    faults.Abandons :=
  ⟨hw, .inl fun hnone => Option.some_ne_none e (hf.symm.trans hnone)⟩

/-- A failing read abandons an answer or drains the line. -/
theorem abandons_of_not_drains (hw : faults.write = none) (hf : faults.flush = none)
    (ha : faults.answer = some e) (hd : ¬ faults.Drains) : faults.Abandons := by
  refine ⟨hw, .inr ⟨e, ha, or_iff_not_imp_left.mpr fun he hdiscard => ?_⟩⟩
  obtain rfl : e = .timeout := not_not.mp he
  exact hd ⟨hw, hf, ha, hdiscard⟩

/-- An exchange that drains the line leaves no answer behind. -/
theorem Drains.not_abandons (h : faults.Drains) : ¬ faults.Abandons := by
  obtain ⟨-, hf, ha, hd⟩ := h
  rintro ⟨-, hflush | ⟨e, he, htimeout | hdiscard⟩⟩
  · exact hflush hf
  · exact htimeout (Option.some.inj (he.symm.trans ha))
  · exact hdiscard hd

/-- An exchange that goes through leaves no answer behind. -/
theorem Passes.not_abandons (h : faults.Passes) : ¬ faults.Abandons := by
  obtain ⟨-, hf, ha⟩ := h
  rintro ⟨-, hflush | ⟨e, he, -⟩⟩
  · exact hflush hf
  · exact Option.some_ne_none e (he.symm.trans ha)

/-- A failing read that does not drain the line leaves it as it is. -/
theorem leave_pending_of_not_drains (hw : faults.write = none) (hf : faults.flush = none)
    (ha : faults.answer = some e) (hd : ¬ faults.Drains) (l : PanelLine) :
    (faults.leave e l).pending = l.pending := by
  rw [leave_pending, if_neg]
  rintro ⟨rfl, hdiscard⟩
  exact hd ⟨hw, hf, ha, hdiscard⟩

end Faults

/-- Among the first rounds of a plan one has abandoned an answer, and none has drained the line
since. -/
def Owed (plan : Nat → Faults) (rounds : Nat) : Prop :=
  Stands Faults.Abandons (fun faults => ¬ faults.Drains) ((List.range rounds).map plan)

theorem not_owed_zero (plan : Nat → Faults) : ¬ Owed plan 0 := not_stands_nil

/-- Whether an answer is owed is decided by the last exchange and by what was owed before. -/
theorem owed_succ {plan : Nat → Faults} {rounds : Nat} :
    Owed plan (rounds + 1) ↔
      (plan rounds).Abandons ∨ Owed plan rounds ∧ ¬ (plan rounds).Drains := by
  rw [Owed, List.range_succ, List.map_append]
  exact stands_concat

/-! ## A round on a settled line -/

/-- Two bytes and more that make up an answer are its header and its payload. -/
theorem Response.encode_eq_append {r : Response} {header : Bytes 2} {rest : List UInt8}
    (h : r.encode = header.toList ++ rest) :
    Header.ofBytes header = r.header ∧ rest = r.payload.toList := by
  rw [Response.encode_eq] at h
  obtain ⟨hheader, hrest⟩ := List.append_inj h
    (r.header.toBytes.length_toList.trans header.length_toList.symm)
  obtain rfl : r.header.toBytes = header := Bytes.ext hheader
  exact ⟨rfl, hrest.symm⟩

namespace Exchanged

variable {opcode : UInt8} {faults : Faults} {request : Frame} {l l' : PanelLine}
  {outcome : Except LinkError (List UInt8)}

/-- An exchange leaves the panel waiting for a new frame if it found it so. -/
theorem idle (h : Exchanged opcode faults request l outcome l') (hidle : l.reader = .idle) :
    l'.reader = .idle := by
  cases h <;> simp [hidle]

/-- The panel executes the request, or the request does not reach it. -/
theorem panel (h : Exchanged opcode faults request l outcome l') :
    l'.panel = l.panel ∨ l'.panel = (l.panel.answer request).2 := by
  cases h with
  | write => exact .inl rfl
  | flush | answer => exact .inr rfl
  | header | payload => exact .inr (Faults.leave_panel _ _ _)

/-- An answer only comes from a round in which nothing failed. -/
theorem passes (h : Exchanged opcode faults request l outcome l') {answer : List UInt8}
    (hok : outcome = .ok answer) : faults.Passes := by
  cases h with
  | write | flush | header | payload => exact nomatch hok
  | answer hw hf hh hp hq => exact ⟨hw, hf, (Faults.answer_of_payload hh).trans hp⟩

/-- A round that drains the line leaves nothing to be read. -/
theorem drained (h : Exchanged opcode faults request l outcome l') (hdrains : faults.Drains) :
    l'.pending = [] := by
  obtain ⟨hw', hf', ha, hd⟩ := hdrains
  cases h with
  | write hw => exact nomatch hw'.symm.trans hw
  | flush hw hf => exact nomatch hf'.symm.trans hf
  | @header e hw hf hh =>
    have he : e = .timeout := by
      rcases hh with hh | ⟨-, he, -⟩
      · exact Option.some.inj ((Faults.answer_of_header hh).symm.trans ha)
      · exact he
    rw [Faults.leave_pending, if_pos ⟨he, hd⟩]
  | @payload e header rest hw hf hh hq hp =>
    rw [Faults.answer_of_payload hh] at ha
    have he : e = .timeout := by
      rcases hp with hp | ⟨-, he, -⟩
      · exact Option.some.inj (hp.symm.trans ha)
      · exact he
    rw [Faults.leave_pending, if_pos ⟨he, hd⟩]
  | answer hw hf hh hp hq =>
    rw [Faults.answer_of_payload hh, hp] at ha
    exact nomatch ha

/-- If nothing waits to be read, the only thing to read is the panel's answer to the request. -/
theorem encode_of_pending (hempty : l.pending = []) {header : Bytes 2} {rest : List UInt8}
    (hq : (l.deliver request).pending = header.toList ++ rest) :
    Header.ofBytes header = (l.panel.answer request).1.header ∧
      rest = (l.panel.answer request).1.payload.toList := by
  rw [PanelLine.deliver_pending, hempty, List.nil_append] at hq
  cases hr : l.panel.responsive with
  | true =>
    rw [hr, if_pos rfl] at hq
    exact Response.encode_eq_append hq
  | false =>
    rw [hr, if_neg Bool.false_ne_true] at hq
    have hlength : 0 = header.toList.length + rest.length := by
      rw [← List.length_append, ← hq, List.length_nil]
    rw [header.length_toList] at hlength
    omega

/-- On an empty line the header and the payload that arrive are those of the panel's answer, and
nothing comes after them. -/
theorem payload_of_pending (hempty : l.pending = []) {header : Bytes 2}
    {answer : Bytes (Header.ofBytes header).length.toNat} {rest : List UInt8}
    (hq : (l.deliver request).pending = header.toList ++ (answer.toList ++ rest)) :
    answer.toList = (l.panel.answer request).1.payload.toList ∧ rest = [] := by
  obtain ⟨hheader, hrest⟩ := encode_of_pending hempty hq
  have hlength := congrArg List.length hrest
  rw [List.length_append, answer.length_toList, hheader, Response.header,
    Payload.toNat_lengthByte] at hlength
  have hnil : rest = [] := List.eq_nil_of_length_eq_zero (by omega)
  rw [hnil, List.append_nil] at hrest
  exact ⟨hrest, hnil⟩

/-- If nothing waits to be read and the request brings no header, the panel is silent. -/
theorem pending_of_short (hempty : l.pending = [])
    (hshort : (l.deliver request).pending.length < 2) : (l.deliver request).pending = [] := by
  rw [PanelLine.deliver_pending, hempty, List.nil_append] at hshort ⊢
  cases hr : l.panel.responsive with
  | true =>
    rw [hr, if_pos rfl, Response.encode, List.length_cons, List.length_cons] at hshort
    omega
  | false => exact if_neg Bool.false_ne_true

/-- If nothing waits to be read, nothing does so after a round that abandons no answer. -/
theorem settled (h : Exchanged opcode faults request l outcome l') (hempty : l.pending = [])
    (habandons : ¬ faults.Abandons) : l'.pending = [] := by
  -- A failing read can only be one that drains the line, so that what is left are the reads that
  -- come to nothing because the panel has said too little.
  by_cases hdrains : faults.Drains
  · exact h.drained hdrains
  cases h with
  | write hw => exact hempty
  | flush hw hf => exact absurd (Faults.abandons_of_flush hw hf) habandons
  | header hw hf hh =>
    rcases hh with hh | ⟨-, -, hshort⟩
    · have ha := Faults.answer_of_header hh
      exact absurd (Faults.abandons_of_not_drains hw hf ha hdrains) habandons
    · rw [Faults.leave_pending, pending_of_short hempty hshort, ite_self]
  | payload hw hf hh hq hp =>
    rcases hp with hp | ⟨-, -, hshort⟩
    · have ha := (Faults.answer_of_payload hh).trans hp
      exact absurd (Faults.abandons_of_not_drains hw hf ha hdrains) habandons
    · obtain ⟨hheader, hrest⟩ := encode_of_pending hempty hq
      rw [hheader, hrest, Response.header, Payload.toNat_lengthByte] at hshort
      exact absurd hshort (Nat.lt_irrefl _)
  | answer hw hf hh hp hq => exact (payload_of_pending hempty hq).2

/-- If nothing waits to be read, the answer is the panel's to this very request. -/
theorem own (h : Exchanged opcode faults request l outcome l') (hempty : l.pending = [])
    {answer : List UInt8} (hok : outcome = .ok answer) :
    answer = (l.panel.answer request).1.payload.toList := by
  cases h with
  | write | flush | header | payload => exact nomatch hok
  | answer hw hf hh hp hq =>
    rw [← (payload_of_pending hempty hq).1]
    split at hok
    · exact (Except.ok.inj hok).symm
    · exact nomatch hok

end Exchanged

/-! ## Conversations in order -/

namespace Conversation

variable {plan : Nat → Faults} {c : Conversation}

/-- The conversation after an exchange. -/
theorem exchange_snd (opcode : Opcode) (payload : List UInt8) (c : Conversation) :
    (Link.exchange opcode payload c).2 =
      ⟨(ChannelLink.exchange opcode payload c.link).2,
        c.log ++ [⟨c.link, opcode, payload, (ChannelLink.exchange opcode payload c.link).1⟩]⟩ := rfl

/-- No byte waits to be read while no answer is owed, and every answer so far was the panel's to the
very request. -/
structure InOrder (plan : Nat → Faults) (c : Conversation) : Prop where
  /-- the failures are those of the plan -/
  follows : c.link.channel.plan = plan
  /-- the panel waits for an opcode -/
  idle : c.link.line.reader = .idle
  /-- every answer was read, unless one is owed -/
  settled : ¬ Owed plan c.link.channel.begun → c.link.line.pending = []
  /-- no answer was taken for another -/
  own : ∀ r ∈ c.log, r.Own

namespace InOrder

theorem start (p : Firmware) (plan : Nat → Faults) : (Conversation.start p plan).InOrder plan where
  follows := rfl
  idle := rfl
  settled _ := rfl
  own := List.forall_mem_nil _

/-- An exchange keeps the order, as long as it does not go through while an answer is owed. -/
theorem exchange (h : c.InOrder plan) (safe : ∀ rounds, Owed plan rounds → ¬ (plan rounds).Passes)
    (opcode : Opcode) (payload : List UInt8) :
    InOrder plan (Link.exchange opcode payload c).2 := by
  rw [exchange_snd]
  cases hr : Frame.new? opcode.toByte payload with
  | error e =>
    rw [ChannelLink.exchange_of_unfit hr]
    refine ⟨h.follows, h.idle, h.settled, forall_mem_concat.mpr ⟨h.own, fun answer hok => ?_⟩⟩
    exact nomatch hok
  | ok request =>
    obtain ⟨outcome, t, hexchange, hplan, hbegun, hex⟩ := ChannelLink.exchange_faulty hr h.idle
    rw [show ChannelLink.exchange opcode payload c.link = (outcome, ⟨t⟩) from hexchange]
    rw [h.follows] at hplan hex
    refine ⟨hplan, hex.idle h.idle, fun howed => ?_, forall_mem_concat.mpr ⟨h.own, ?_⟩⟩
    · change ¬ Owed plan t.begun at howed
      rw [hbegun, owed_succ, not_or, not_and_not_right] at howed
      obtain ⟨habandons, hdrains⟩ := howed
      -- Either the round has drained the line, or no answer was owed and none was abandoned.
      by_cases owed : Owed plan c.link.channel.begun
      · exact hex.drained (hdrains owed)
      · exact hex.settled (h.settled owed) habandons
    · intro answer hok
      have notOwed : ¬ Owed plan c.link.channel.begun := fun owed => safe _ owed (hex.passes hok)
      exact ⟨request, hr, hex.own (h.settled notOwed) hok⟩

theorem after (h : c.InOrder plan) (safe : ∀ rounds, Owed plan rounds → ¬ (plan rounds).Passes)
    (contact : Contact) : InOrder plan (c.after contact) := by
  cases contact with
  | call call =>
    exact call.perform_keeps (fun opcode payload _ h => h.exchange safe opcode payload) h
  | responsive on => exact ⟨h.follows, h.idle, h.settled, h.own⟩

/-- The order is kept over all contacts, by induction on them. -/
theorem course (h : c.InOrder plan) (safe : ∀ rounds, Owed plan rounds → ¬ (plan rounds).Passes)
    (contacts : List Contact) : InOrder plan (c.course contacts) := by
  induction contacts generalizing c with
  | nil => exact h
  | cons contact rest ih => exact ih (h.after safe contact)

end InOrder

end Conversation

end Marquee
