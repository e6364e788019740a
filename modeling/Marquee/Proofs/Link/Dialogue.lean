import Marquee.Link.Conversation
import Marquee.Proofs.Link.Requests
import Marquee.Proofs.Link.Tapped

/-!
# Dialogues in step

Over a line that never fails a link is a faithful go-between. A call that is turned away sends
nothing (`perform_of_error`); any other call has the panel carry out its requests, one after another
up to the first that fails (`perform_eq_exchangeAll`, `InStep.exchangeAll`). What this comes to is a
matter of the panel alone (`Firmware.carryOut`), and afterwards the panel waits for an opcode and no
answer waits to be read, so that the next call finds the two ends in step (`dialogue_in_step`).
-/

namespace Marquee

/-! ## Requests on a panel -/

/-- What a series of requests comes to on a panel. -/
structure Turn where
  /-- the requests that reached the panel, each with what the host learned -/
  exchanges : List (Request × Except LinkError (List UInt8))
  /-- the first failure -/
  result : Except LinkError Unit
  /-- the panel afterwards -/
  panel : Firmware

/-- Executes the frames of requests, each once and in order. The first failure is the last request
that reaches the panel. -/
def Firmware.carryOut (p : Firmware) : List Request → Turn
  | [] => ⟨[], .ok (), p⟩
  | r :: rest =>
    match p.verdict r.opcode r.frame with
    | .error e => ⟨[(r, .error e)], .error e, (p.answer r.frame).2⟩
    | .ok answer =>
      let turn := (p.answer r.frame).2.carryOut rest
      { turn with exchanges := (r, .ok answer) :: turn.exchanges }

/-- The bytes of the requests that reached the panel. -/
def Turn.sent (turn : Turn) : List UInt8 := turn.exchanges.flatMap fun x => x.1.frame.encode

/-- What was asked for, and what it brought. -/
def Turn.brought (turn : Turn) : List (Opcode × List UInt8 × Except LinkError (List UInt8)) :=
  turn.exchanges.map fun x => (x.1.opcode, x.1.payload.toList, x.2)

namespace Firmware

variable {p : Firmware} {r : Request}

theorem carryOut_cons_of_error (rest : List Request) {e : LinkError}
    (h : p.verdict r.opcode r.frame = .error e) :
    p.carryOut (r :: rest) = ⟨[(r, .error e)], .error e, (p.answer r.frame).2⟩ := by
  rw [carryOut, h]

theorem carryOut_cons_of_ok (rest : List Request) {answer : List UInt8}
    (h : p.verdict r.opcode r.frame = .ok answer) :
    p.carryOut (r :: rest) =
      { (p.answer r.frame).2.carryOut rest with
        exchanges := (r, .ok answer) :: ((p.answer r.frame).2.carryOut rest).exchanges } := by
  rw [carryOut, h]

end Firmware

/-! ## One exchange -/

/-- A question for the identity brings one byte. -/
theorem Firmware.verdict_askId (p : Firmware) {answer : List UInt8}
    (h : p.verdict .askId ⟨Opcode.askId.toByte, .empty⟩ = .ok answer) : answer = [p.id] := by
  unfold verdict at h
  cases hr : p.responsive with
  | false =>
    rw [hr] at h
    cases h
  | true =>
    rw [hr] at h
    exact (Except.ok.inj h).symm

namespace Dialogue

/-- The line is in step, and no fault is set. -/
structure InStep (d : Dialogue) : Prop where
  /-- the panel waits for an opcode, and every answer was read -/
  line : d.line.InStep
  /-- nothing fails -/
  clear : ∀ kind, d.link.channel.fault kind = none

theorem inStep_start (p : Firmware) : (start p).InStep := ⟨PanelLine.inStep_ofPanel p, fun _ => rfl⟩

variable {d : Dialogue}

/-- In step, a request has the panel execute its frame once, and the host learns the verdict. -/
theorem InStep.exchange (h : d.InStep) (r : Request) :
    ∃ d' : Dialogue, Link.exchange r.opcode r.payload.toList d =
        (d.line.panel.verdict r.opcode r.frame, d') ∧
      d'.InStep ∧ d'.line.panel = (d.line.panel.answer r.frame).2 ∧
      d'.sent = d.sent ++ r.frame.encode ∧
      d'.brought = d.brought ++
        [(r.opcode, r.payload.toList, d.line.panel.verdict r.opcode r.frame)] := by
  have hnew := r.new?_frame
  have accepted : (Channel.write r.frame.encode d.link.channel).1 = .ok () := by
    rw [Tapped.write_of_ok (h.clear .write) (PanelLine.write_encode h.line.reader r.frame)]
  have hsent := Tapped.exchange_sent hnew accepted
  -- The tap makes no difference to what the exchange does on the line.
  have hplain := ChannelLink.exchange_line h.line hnew
  have hover : ChannelLink.Over Tapped.On d.link ⟨d.line⟩ := ⟨h.clear, rfl⟩
  have hrelated := ChannelLink.exchange_related Tapped.related r.opcode r.payload.toList hover
  change (ChannelLink.exchange r.opcode r.payload.toList d.link).1 =
      (ChannelLink.exchange r.opcode r.payload.toList ⟨d.line⟩).1 ∧
    ChannelLink.Over Tapped.On (ChannelLink.exchange r.opcode r.payload.toList d.link).2
      (ChannelLink.exchange r.opcode r.payload.toList ⟨d.line⟩).2 at hrelated
  rw [hplain] at hrelated
  rcases hexchange : ChannelLink.exchange r.opcode r.payload.toList d.link with ⟨outcome, link⟩
  rw [hexchange] at hsent hrelated
  obtain ⟨rfl, hclear, hline⟩ := hrelated
  have hline : link.channel.channel = d.line.executed r.frame := hline
  refine ⟨_, Recorder.exchange_eq hexchange, ⟨?_, hclear⟩, ?_, hsent, ?_⟩
  · change link.channel.channel.InStep
    rw [hline]
    exact h.line.executed r.frame
  · change link.channel.channel.panel = _
    rw [hline]
    exact PanelLine.executed_panel r.frame d.line
  · exact List.map_append

/-- In step, requests come to what they come to on the panel alone. -/
theorem InStep.exchangeAll (h : d.InStep) (requests : List Request) :
    ∃ d' : Dialogue, Link.exchangeAll requests d = ((d.line.panel.carryOut requests).result, d') ∧
      d'.InStep ∧ d'.line.panel = (d.line.panel.carryOut requests).panel ∧
      d'.sent = d.sent ++ (d.line.panel.carryOut requests).sent ∧
      d'.brought = d.brought ++ (d.line.panel.carryOut requests).brought := by
  induction requests generalizing d with
  | nil =>
    exact ⟨d, rfl, h, rfl, (List.append_nil _).symm, (List.append_nil _).symm⟩
  | cons r rest ih =>
    obtain ⟨d₁, hexchange, h₁, hpanel₁, hsent₁, hbrought₁⟩ := h.exchange r
    cases hv : d.line.panel.verdict r.opcode r.frame with
    | error e =>
      rw [hv] at hexchange hbrought₁
      rw [Firmware.carryOut_cons_of_error rest hv]
      refine ⟨d₁, Attempt.bind_of_error hexchange, h₁, hpanel₁, ?_, hbrought₁⟩
      rw [hsent₁, Turn.sent, List.flatMap_singleton]
    | ok answer =>
      rw [hv] at hexchange hbrought₁
      obtain ⟨d₂, hrest, h₂, hpanel₂, hsent₂, hbrought₂⟩ := ih h₁
      rw [hpanel₁] at hrest hpanel₂ hsent₂ hbrought₂
      rw [Firmware.carryOut_cons_of_ok rest hv]
      refine ⟨d₂, (Attempt.bind_of_ok hexchange).trans hrest, h₂, hpanel₂, ?_, ?_⟩
      · rw [hsent₂, hsent₁, List.append_assoc]
        rfl
      · rw [hbrought₂, hbrought₁, List.append_assoc]
        rfl

/-! ## Calls -/

/-- In step, a call with arguments in bounds comes to what its requests come to. -/
theorem InStep.perform (h : d.InStep) {call : Call} {requests : List Request}
    (hrequests : call.requests = .ok requests) :
    call.perform d = Link.exchangeAll requests d := by
  by_cases hask : call = .askIdentity
  · subst hask
    obtain rfl : [⟨.askId, .empty⟩] = requests := Except.ok.inj hrequests
    obtain ⟨d', hexchange, -⟩ := h.exchange ⟨.askId, .empty⟩
    exact Call.perform_askIdentity hexchange fun answer hok => ⟨_, Firmware.verdict_askId _ hok⟩
  · rw [Call.perform_eq_exchangeAll hrequests hask]

/-- A call with arguments out of bounds leaves the link alone. -/
theorem perform_of_error {call : Call} {e : ArgumentError} (h : call.requests = .error e)
    (d : Dialogue) :
    (call.perform d).1 = .error (.argument e) ∧ (call.perform d).2.link = d.link := by
  obtain ⟨hresult, hlink⟩ := Recorder.perform_link call d
  rw [hresult, hlink, ChannelLink.perform_of_error h]
  exact ⟨rfl, rfl⟩

theorem InStep.call (h : d.InStep) (call : Call) : (call.perform d).2.InStep := by
  cases hrequests : call.requests with
  | error e =>
    obtain ⟨-, hlink⟩ := perform_of_error hrequests d
    refine ⟨?_, ?_⟩
    · rw [Dialogue.line, hlink]
      exact h.line
    · rw [hlink]
      exact h.clear
  | ok requests =>
    obtain ⟨d', hall, h', -⟩ := h.exchangeAll requests
    rw [h.perform hrequests, hall]
    exact h'

theorem InStep.after (h : d.InStep) (contact : Contact) : (d.after contact).InStep := by
  cases contact with
  | call call => exact h.call call
  | responsive on => exact ⟨h.line.setResponsive on, h.clear⟩

theorem InStep.course (h : d.InStep) (contacts : List Contact) : (d.course contacts).InStep := by
  induction contacts generalizing d with
  | nil => exact h
  | cons contact rest ih => exact ih (h.after contact)

end Dialogue

/-- A link over a line that never fails is a faithful go-between that is always in step. After any
series of calls, with any switches between answering and not answering, the panel waits for an
opcode and every answer was read. A call that is turned away fails with the reason, and sends
nothing to the panel. Any other call sends the frames of its requests up to the first that fails,
the panel executes each of them once and in this order, and each exchange brings the panel's
verdict: the payload of a success, the status of a refusal, or a timeout if the panel does not
answer. -/
theorem dialogue_in_step (p : Firmware) (contacts : List Contact) (call : Call) :
    let d := (Dialogue.start p).course contacts
    let d' := d.after (.call call)
    d.line.InStep ∧ d'.line.InStep ∧
      match call.requests with
      | .error e =>
        (call.perform d).1 = .error (.argument e) ∧ d'.line = d.line ∧ d'.sent = d.sent
      | .ok requests =>
        let turn := d.line.panel.carryOut requests
        (call.perform d).1 = turn.result ∧ d'.line.panel = turn.panel ∧
          d'.sent = d.sent ++ turn.sent ∧ d'.brought = d.brought ++ turn.brought := by
  intro d d'
  have h : d.InStep := (Dialogue.inStep_start p).course contacts
  refine ⟨h.line, (h.call call).line, ?_⟩
  cases hrequests : call.requests with
  | error e =>
    obtain ⟨hresult, hlink⟩ := Dialogue.perform_of_error hrequests d
    have hline : d'.line = d.line := congrArg (fun link => link.channel.channel) hlink
    have hsent : d'.sent = d.sent := congrArg (fun link => link.channel.sent) hlink
    exact ⟨hresult, hline, hsent⟩
  | ok requests =>
    obtain ⟨d'', hall, -, hpanel, hsent, hbrought⟩ := h.exchangeAll requests
    have hperform := (h.perform hrequests).trans hall
    have hd' : d' = d'' := congrArg Prod.snd hperform
    rw [hd', hperform]
    exact ⟨rfl, hpanel, hsent, hbrought⟩

end Marquee
