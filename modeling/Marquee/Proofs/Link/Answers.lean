import Marquee.Proofs.Link.InOrder

/-!
# Whose answer an exchange brings

Once an answer is owed, the next round without a failure can bring a wrong one. For every plan of
failures there is a conversation that leaves nothing but zeros to be read, and at least one while
an answer is owed (`exists_zeros`), and a question for the identity then takes two of them for
its answer (`Zeros.not_own`). So the failures of a line decide alone whether answers can be taken
for others (`own_iff_not_owed`).
-/

namespace Marquee

/-! ## Conversations out of order

A panel with the identity 0 answers in zeros: an acknowledgement is two of them, and what is left
of an identity when its header was read is one. A queue of zeros begins with an acknowledgement,
wherever in it an answer was broken off. -/

/-- Switches the relay on. -/
def relayRequest : Frame := ⟨Opcode.relay.toByte, .single 1⟩

/-- Asks for the identity. -/
def idRequest : Frame := ⟨Opcode.askId.toByte, .empty⟩

theorem answer_relayRequest (p : Firmware) :
    (p.answer relayRequest).1.encode = List.replicate 2 0 := rfl

theorem answer_idRequest (p : Firmware) : (p.answer idRequest).1.encode = [0, 1, p.id] := rfl

/-- A queue of at least two zeros begins with the header of an acknowledgement. -/
theorem header_of_zeros {m : Nat} {header : Bytes 2} {rest : List UInt8}
    (h : List.replicate (m + 2) 0 = header.toList ++ rest) :
    Header.ofBytes header = ⟨0, 0⟩ ∧ rest = List.replicate m 0 := by
  have hzeros : List.replicate (m + 2) (0 : UInt8) = [0, 0] ++ List.replicate m 0 := rfl
  rw [hzeros] at h
  obtain ⟨hheader, hrest⟩ := List.append_inj h header.length_toList.symm
  obtain rfl : (⟨[0, 0], rfl⟩ : Bytes 2) = header := Bytes.ext hheader
  exact ⟨rfl, hrest.symm⟩

namespace Exchanged

variable {opcode : UInt8} {faults : Faults} {l l' : PanelLine}
  {outcome : Except LinkError (List UInt8)} {m : Nat}

/-- A switch of the relay leaves zeros behind if there were zeros before, and at least one if an
answer is owed then. The exception is an empty line on which only the payload is not read. -/
theorem zeros_of_relay (h : Exchanged opcode faults relayRequest l outcome l')
    (hr : l.panel.responsive = true) (hq : l.pending = List.replicate m 0)
    (hm : m = 0 → faults.flush = none → faults.header = none → faults.payload = none) :
    ∃ m', l'.pending = List.replicate m' 0 ∧
      (faults.Abandons ∨ m ≠ 0 ∧ ¬ faults.Drains → m' ≠ 0) := by
  -- The answer to a switch is two zeros, so zeros are all that is ever read here.
  have hdelivered : (l.deliver relayRequest).pending = List.replicate (m + 2) 0 := by
    rw [PanelLine.deliver_pending, if_pos hr, hq, answer_relayRequest]
    exact List.replicate_append_replicate
  by_cases hdrains : faults.Drains
  · refine ⟨0, h.drained hdrains, ?_⟩
    rintro (habandons | ⟨-, hnot⟩)
    · exact absurd habandons hdrains.not_abandons
    · exact absurd hdrains hnot
  cases h with
  | write hw =>
    refine ⟨m, hq, ?_⟩
    rintro (⟨hnone, -⟩ | ⟨hne, -⟩)
    · exact nomatch hnone.symm.trans hw
    · exact hne
  | flush hw hf => exact ⟨m + 2, hdelivered, fun _ => Nat.succ_ne_zero _⟩
  | header hw hf hh =>
    rcases hh with hh | ⟨-, -, hshort⟩
    · rw [Faults.leave_pending_of_not_drains hw hf (Faults.answer_of_header hh) hdrains]
      exact ⟨m + 2, hdelivered, fun _ => Nat.succ_ne_zero _⟩
    · rw [hdelivered, List.length_replicate] at hshort
      omega
  | payload hw hf hh hq' hp =>
    obtain ⟨hheader, hrest⟩ := header_of_zeros (hdelivered.symm.trans hq')
    rcases hp with hp | ⟨-, -, hshort⟩
    · have ha := (Faults.answer_of_payload hh).trans hp
      rw [Faults.leave_pending_of_not_drains hw hf ha hdrains]
      exact ⟨m, hrest, fun _ hzero => nomatch hp.symm.trans (hm hzero hf hh)⟩
    · rw [hheader] at hshort
      exact absurd hshort (Nat.not_lt_zero _)
  | @answer header answer rest hw hf hh hp hq' =>
    obtain ⟨hheader, hrest⟩ := header_of_zeros (hdelivered.symm.trans hq')
    have hnil : answer.toList = [] :=
      List.eq_nil_of_length_eq_zero (by rw [answer.length_toList, hheader]; rfl)
    have hpasses : faults.Passes := ⟨hw, hf, (Faults.answer_of_payload hh).trans hp⟩
    rw [hnil, List.nil_append] at hrest
    refine ⟨m, hrest, ?_⟩
    rintro (habandons | ⟨hne, -⟩)
    · exact absurd habandons hpasses.not_abandons
    · exact hne

/-- A question for the identity that ends after the header leaves a zero behind. -/
theorem zeros_of_id (h : Exchanged opcode faults idRequest l outcome l')
    (hr : l.panel.responsive = true) (hid : l.panel.id = 0) (hq : l.pending = [])
    (hf : faults.flush = none) (hh : faults.header = none) (hp : faults.payload ≠ none) :
    ∃ m', l'.pending = List.replicate m' 0 ∧ (faults.Abandons → m' ≠ 0) := by
  have hdelivered : (l.deliver idRequest).pending = [0, 1] ++ List.replicate 1 0 := by
    rw [PanelLine.deliver_pending, if_pos hr, hq, answer_idRequest, hid]
    rfl
  by_cases hdrains : faults.Drains
  · exact ⟨0, h.drained hdrains, fun habandons => absurd habandons hdrains.not_abandons⟩
  cases h with
  | write hw => exact ⟨0, hq, fun h => nomatch h.1.symm.trans hw⟩
  | flush hw hflush => exact nomatch hf.symm.trans hflush
  | header hw _ hheader =>
    rcases hheader with hheader | ⟨-, -, hshort⟩
    · exact nomatch hh.symm.trans hheader
    · rw [hdelivered] at hshort
      exact absurd hshort (by decide)
  | @payload e header rest hw _ _ hq' hpayload =>
    have hrest : List.replicate 1 0 = rest :=
      (List.append_inj (hdelivered.symm.trans hq') header.length_toList.symm).2
    rcases hpayload with hpayload | ⟨hnone, -⟩
    · have ha := (Faults.answer_of_payload hh).trans hpayload
      rw [Faults.leave_pending_of_not_drains hw hf ha hdrains]
      exact ⟨1, hrest.symm, fun _ => Nat.one_ne_zero⟩
    · exact absurd hnone hp
  | answer hw _ _ hnone => exact absurd hnone hp

/-- The identity is not what a question for it brings, if a zero waits to be read before. -/
theorem answer_of_zeros (h : Exchanged opcode faults idRequest l outcome l')
    (hr : l.panel.responsive = true) (hid : l.panel.id = 0)
    (hq : l.pending = List.replicate (m + 1) 0) (hpasses : faults.Passes) : outcome = .ok [] := by
  obtain ⟨hw', hf', ha⟩ := hpasses
  -- One zero that waits makes a header of two zeros, with the status that the answer begins with.
  have hdelivered : ∃ rest, (l.deliver idRequest).pending = [0, 0] ++ rest := by
    rw [PanelLine.deliver_pending, if_pos hr, hq, answer_idRequest, hid]
    cases m with
    | zero => exact ⟨[1, 0], rfl⟩
    | succ m => exact ⟨List.replicate m 0 ++ [0, 1, 0], rfl⟩
  obtain ⟨queue, hdelivered⟩ := hdelivered
  have hheader {header : Bytes 2} {rest : List UInt8}
      (h : (l.deliver idRequest).pending = header.toList ++ rest) :
      Header.ofBytes header = ⟨0, 0⟩ := by
    have hfirst := (List.append_inj (hdelivered.symm.trans h) header.length_toList.symm).1
    obtain rfl : (⟨[0, 0], rfl⟩ : Bytes 2) = header := Bytes.ext hfirst
    rfl
  cases h with
  | write hw => exact nomatch hw'.symm.trans hw
  | flush hw hf => exact nomatch hf'.symm.trans hf
  | header hw hf hh =>
    rcases hh with hh | ⟨-, -, hshort⟩
    · exact nomatch ha.symm.trans (Faults.answer_of_header hh)
    · rw [hdelivered, List.length_append] at hshort
      exact absurd hshort (Nat.not_lt.mpr (Nat.le_add_right 2 _))
  | payload hw hf hh hq hp =>
    rcases hp with hp | ⟨-, -, hshort⟩
    · exact nomatch ha.symm.trans ((Faults.answer_of_payload hh).trans hp)
    · rw [hheader hq] at hshort
      exact absurd hshort (Nat.not_lt_zero _)
  | @answer header answer rest hw hf hh hp hq =>
    have hnil : answer.toList = [] :=
      List.eq_nil_of_length_eq_zero (by rw [answer.length_toList, hheader hq]; rfl)
    rw [hnil, hheader hq]
    rfl

end Exchanged

namespace Conversation

variable {plan : Nat → Faults} {rounds : Nat} {c : Conversation}

/-- A call that is a single exchange does what the exchange does. -/
theorem after_exchange (opcode : Opcode) (payload : List UInt8) (c : Conversation) :
    c.after (.call (.exchange opcode payload)) =
      ⟨(ChannelLink.exchange opcode payload c.link).2,
        c.log ++ [⟨c.link, opcode, payload, (ChannelLink.exchange opcode payload c.link).1⟩]⟩ := by
  change ((Link.exchange opcode payload >>= fun _ => pure () :
    Attempt Conversation LinkError Unit) c).2 = _
  rw [Attempt.bind_apply, ← exchange_snd]
  generalize Link.exchange opcode payload c = result
  obtain ⟨_ | _, _⟩ := result <;> rfl

/-- Nothing but zeros wait to be read, and at least one while an answer is owed. -/
structure Zeros (plan : Nat → Faults) (rounds : Nat) (c : Conversation) : Prop where
  /-- the failures are those of the plan -/
  follows : c.link.channel.plan = plan
  /-- so many rounds have begun -/
  begun : c.link.channel.begun = rounds
  /-- the panel waits for an opcode -/
  idle : c.link.line.reader = .idle
  /-- the panel answers -/
  responsive : c.link.line.panel.responsive = true
  /-- the panel has the identity 0 -/
  identity : c.link.line.panel.id = 0
  /-- zeros wait to be read -/
  pending : ∃ m, c.link.line.pending = List.replicate m 0 ∧ (Owed plan rounds → m ≠ 0)

namespace Zeros

theorem start (plan : Nat → Faults) : (Conversation.start (.new 0) plan).Zeros plan 0 where
  follows := rfl
  begun := rfl
  idle := rfl
  responsive := rfl
  identity := rfl
  pending := ⟨0, rfl, fun owed => absurd owed (not_owed_zero plan)⟩

/-- An exchange goes on with zeros if it leaves zeros behind and does not change the identity. -/
theorem exchange (h : c.Zeros plan rounds) {opcode : Opcode} {payload : List UInt8}
    {request : Frame} (hr : Frame.new? opcode.toByte payload = .ok request)
    (hid : (c.link.line.panel.answer request).2.id = c.link.line.panel.id)
    (hpending : ∀ {outcome l'},
      Exchanged opcode.toByte (plan rounds) request c.link.line outcome l' →
        ∃ m, l'.pending = List.replicate m 0 ∧ (Owed plan (rounds + 1) → m ≠ 0)) :
    (c.after (.call (.exchange opcode payload))).Zeros plan (rounds + 1) := by
  obtain ⟨outcome, t, hexchange, hplan, hbegun, hex⟩ := ChannelLink.exchange_faulty hr h.idle
  rw [h.follows] at hplan hex
  rw [h.begun] at hbegun hex
  have hlink : ChannelLink.exchange opcode payload c.link = (outcome, ⟨t⟩) := hexchange
  rw [after_exchange, hlink]
  have hpanel : t.channel.panel.responsive = true ∧ t.channel.panel.id = 0 := by
    rcases hex.panel with hsame | hanswer
    · rw [hsame]
      exact ⟨h.responsive, h.identity⟩
    · rw [hanswer, Firmware.answer_responsive]
      exact ⟨h.responsive, hid.trans h.identity⟩
  exact ⟨hplan, hbegun, hex.idle h.idle, hpanel.1, hpanel.2, hpending hex⟩

/-- Any round can be one that goes on with zeros. -/
theorem next (h : c.Zeros plan rounds) :
    ∃ contact, (c.after contact).Zeros plan (rounds + 1) := by
  obtain ⟨m, hm, howed⟩ := h.pending
  -- On an empty line an acknowledgement without its payload leaves nothing behind, so that a round
  -- which only fails to read the payload has to ask for something that has one.
  by_cases hbreak : m = 0 ∧ (plan rounds).flush = none ∧ (plan rounds).header = none ∧
      (plan rounds).payload ≠ none
  · obtain ⟨rfl, hf, hh, hp⟩ := hbreak
    have hr : Frame.new? Opcode.askId.toByte [] = .ok idRequest := rfl
    refine ⟨.call (.exchange .askId []), h.exchange hr rfl fun hex => ?_⟩
    obtain ⟨m', hpending, hne⟩ := hex.zeros_of_id h.responsive h.identity hm hf hh hp
    refine ⟨m', hpending, fun owed => hne ?_⟩
    exact (owed_succ.mp owed).resolve_right fun before => howed before.1 rfl
  · have hr : Frame.new? Opcode.relay.toByte [1] = .ok relayRequest := rfl
    refine ⟨.call (.exchange .relay [1]), h.exchange hr rfl fun hex => ?_⟩
    obtain ⟨m', hpending, hne⟩ := hex.zeros_of_relay h.responsive hm fun hzero hf hh =>
      by_contra fun hp => hbreak ⟨hzero, hf, hh, hp⟩
    refine ⟨m', hpending, fun owed => hne ?_⟩
    exact (owed_succ.mp owed).imp_right fun before => ⟨howed before.1, before.2⟩

end Zeros

/-- There is a conversation for every plan that leaves nothing but zeros to be read. -/
theorem exists_zeros (plan : Nat → Faults) (rounds : Nat) :
    ∃ contacts, ((start (.new 0) plan).course contacts).Zeros plan rounds := by
  induction rounds with
  | zero => exact ⟨[], .start plan⟩
  | succ rounds ih =>
    obtain ⟨contacts, h⟩ := ih
    obtain ⟨contact, hnext⟩ := h.next
    refine ⟨contacts ++ [contact], ?_⟩
    rw [course, List.foldl_append]
    exact hnext

/-- A question for the identity brings an older answer if one is owed. -/
theorem Zeros.not_own (h : c.Zeros plan rounds) (owed : Owed plan rounds)
    (hpasses : (plan rounds).Passes) :
    ∃ r ∈ (c.after (.call (.exchange .askId []))).log, ¬ r.Own := by
  obtain ⟨m, hm, hne⟩ := h.pending
  obtain ⟨m, rfl⟩ := Nat.exists_eq_succ_of_ne_zero (hne owed)
  have hask : Frame.new? Opcode.askId.toByte [] = .ok idRequest := rfl
  obtain ⟨outcome, t, hexchange, -, -, hex⟩ := ChannelLink.exchange_faulty hask h.idle
  rw [h.follows, h.begun] at hex
  have hempty : outcome = .ok [] := hex.answer_of_zeros h.responsive h.identity hm hpasses
  have hlink : ChannelLink.exchange .askId [] c.link = (outcome, ⟨t⟩) := hexchange
  rw [after_exchange, hlink]
  refine ⟨_, List.mem_append_right _ (List.mem_singleton_self _), fun own => ?_⟩
  obtain ⟨request, hr, hanswer⟩ := own [] hempty
  obtain rfl : idRequest = request := Except.ok.inj (hask.symm.trans hr)
  exact nomatch hanswer

end Conversation

/-! ## Whose answer it is -/

/-- The failures of a line keep every exchange from bringing a wrong answer, whatever the panel and
the calls, exactly if every round in which nothing fails comes at a time when no answer is owed. -/
theorem own_iff_not_owed (plan : Nat → Faults) :
    (∀ (p : Firmware) (contacts : List Contact),
        ∀ r ∈ ((Conversation.start p plan).course contacts).log, r.Own) ↔
      ∀ rounds, Owed plan rounds → ¬ (plan rounds).Passes := by
  constructor
  · intro own rounds owed hpasses
    obtain ⟨contacts, h⟩ := Conversation.exists_zeros plan rounds
    obtain ⟨r, hmem, hnot⟩ := h.not_own owed hpasses
    refine hnot (own (.new 0) (contacts ++ [.call (.exchange .askId [])]) r ?_)
    rw [Conversation.course, List.foldl_append]
    exact hmem
  · intro safe p contacts
    exact ((Conversation.InOrder.start p plan).course safe contacts).own

/-- The answer to a switch of the relay is taken for the identity, if the switch failed only when
the panel had it already. -/
theorem acknowledgement_as_identity :
    let plan : Nat → Faults := fun round =>
      if round = 0 then { Faults.clear with flush := some .timeout } else .clear
    let c := (Conversation.start (.new 5) plan).course
      [.call (.switchRelay true), .call .askIdentity]
    c.log.map (fun r => r.outcome) =
        [.error (.exchange (.timeout Opcode.relay.toByte)), .ok []] ∧
      ∃ r ∈ c.log, ¬ r.Own := by
  intro plan c
  refine ⟨rfl, _, List.mem_cons_of_mem _ (List.mem_singleton_self _), fun own => ?_⟩
  obtain ⟨request, hr, hanswer⟩ := own [] rfl
  obtain rfl : idRequest = request := Except.ok.inj hr
  exact nomatch hanswer

end Marquee
