import Marquee.Proofs.Link.Dialogue
import Marquee.Proofs.Service.Rounds

/-!
# Rounds on emulated panels

A panel that is in step and gets a request that it cannot refuse carries it out once, and if it does
not answer the host takes that for a timeout (`Dialogue.InStep.visit`). So on panels that answer
rounds come to what the calls come to on every panel alone (`rounds_answered`), and a panel that
does not answer ends them in the first round, with its own work done and nothing sent to the panels
after it (`rounds_unanswered`). A call that is turned away is turned away at the first panel already
(`rounds_refused`).
-/

namespace Marquee

variable {call : Call} {r : Request} {f : Firmware → Firmware}

/-- The call is this one request, and there is no panel that does not carry it out in this way. -/
structure Call.Works (call : Call) (r : Request) (f : Firmware → Firmware) : Prop where
  /-- what the call asks for -/
  requests : call.requests = .ok [r]
  /-- what a panel does then -/
  answer : ∀ p : Firmware, p.answer r.frame = (.ack, f p)

/-- A panel that acknowledges all it is asked for ends its turn by answering or not. -/
theorem Call.Works.carryOut (works : call.Works r f) (p : Firmware) :
    (p.carryOut [r]).result =
        (if p.responsive then .ok () else .error (.exchange (.timeout r.opcode.toByte))) ∧
      (p.carryOut [r]).panel = f p ∧ (p.carryOut [r]).sent = r.frame.encode := by
  cases hresponsive : p.responsive with
  | false =>
    have hverdict : p.verdict r.opcode r.frame =
        .error (.exchange (.timeout r.opcode.toByte)) := by
      rw [Firmware.verdict, hresponsive]
      rfl
    rw [Firmware.carryOut_cons_of_error [] hverdict, works.answer]
    exact ⟨rfl, rfl, List.flatMap_singleton _ _⟩
  | true =>
    have hverdict : p.verdict r.opcode r.frame = .ok [] := by
      rw [Firmware.verdict, hresponsive, works.answer]
      rfl
    rw [Firmware.carryOut_cons_of_ok [] hverdict, works.answer]
    exact ⟨rfl, rfl, List.flatMap_singleton _ _⟩

/-! ## One panel -/

namespace Dialogue

/-- The dialogue goes on with these bytes to the panel, which becomes another one thereby. -/
structure GoesOn (d : Dialogue) (bytes : List UInt8) (p : Firmware) (d' : Dialogue) : Prop where
  /-- the two ends are in step again -/
  inStep : d'.InStep
  /-- the panel -/
  panel : d'.line.panel = p
  /-- the bytes come after all that was sent before -/
  sent : d'.sent = d.sent ++ bytes

variable {d d₁ d₂ : Dialogue} {bytes more : List UInt8} {p q : Firmware}

theorem GoesOn.refl (h : d.InStep) : d.GoesOn [] d.line.panel d :=
  ⟨h, rfl, (List.append_nil _).symm⟩

theorem GoesOn.trans (h₁ : d.GoesOn bytes p d₁) (h₂ : d₁.GoesOn more q d₂) :
    d.GoesOn (bytes ++ more) q d₂ where
  inStep := h₂.inStep
  panel := h₂.panel
  sent := by rw [h₂.sent, h₁.sent, List.append_assoc]

/-- Taking remarks has no part in a dialogue. -/
theorem GoesOn.takeRemarks (h : d.GoesOn bytes p d₁) :
    d.GoesOn bytes p (Link.takeRemarks d₁).2 :=
  ⟨⟨⟨h.inStep.line.reader, h.inStep.line.pending⟩, h.inStep.clear⟩, h.panel, h.sent⟩

/-- The panel carries out the call, and the host learns of it if the panel answers. -/
theorem InStep.visit (h : d.InStep) (works : call.Works r f) :
    ∃ d', call.visit d =
        (if d.line.panel.responsive then .ok ()
          else .error (.exchange (.timeout r.opcode.toByte)), d') ∧
      d.GoesOn r.frame.encode (f d.line.panel) d' := by
  obtain ⟨d', hall, h', hpanel, hsent, -⟩ := h.exchangeAll [r]
  obtain ⟨hresult, hturn, hbytes⟩ := works.carryOut d.line.panel
  have hperform := (h.perform works.requests).trans hall
  refine ⟨(Link.takeRemarks d').2, by rw [Call.visit, hperform, hresult], ?_⟩
  exact GoesOn.takeRemarks ⟨h', hpanel.trans hturn, by rw [hsent, hbytes]⟩

theorem InStep.visit_of_responsive (h : d.InStep) (works : call.Works r f)
    (responsive : d.line.panel.responsive = true) :
    ∃ d', call.visit d = (.ok (), d') ∧ d.GoesOn r.frame.encode (f d.line.panel) d' := by
  have hvisit := h.visit works
  rw [responsive] at hvisit
  exact hvisit

/-- A call with arguments out of bounds fails without a byte to the panel. -/
theorem InStep.visit_of_error (h : d.InStep) {e : ArgumentError}
    (hrequests : call.requests = .error e) :
    ∃ d', call.visit d = (.error (.argument e), d') ∧ d.GoesOn [] d.line.panel d' := by
  obtain ⟨hresult, hlink⟩ := perform_of_error hrequests d
  have hgoes : d.GoesOn [] d.line.panel (call.perform d).2 :=
    ⟨h.call call, by rw [Dialogue.line, hlink]; rfl,
      by rw [Dialogue.sent, hlink]; exact (List.append_nil _).symm⟩
  exact ⟨_, Prod.ext hresult rfl, hgoes.takeRemarks⟩

end Dialogue

/-! ## Several panels -/

/-- Dialogues are in step, whatever was said in them so far. -/
theorem inStep_of_mem_course {past : List (Firmware × List Contact)} {d : Dialogue}
    (h : d ∈ past.map fun p => (Dialogue.start p.1).course p.2) : d.InStep := by
  obtain ⟨p, -, rfl⟩ := List.mem_map.mp h
  exact (Dialogue.inStep_start p.1).course p.2

/-- The dialogue at a place, if there is one, goes on with these bytes, and the panel changes in
this way. -/
def GoesOnAt (place : Nat) (bytes : List UInt8) (f : Firmware → Firmware)
    (panels panels' : List Dialogue) : Prop :=
  ∀ d, panels[place]? = some d →
    ∃ d', panels'[place]? = some d' ∧ d.GoesOn bytes (f d.line.panel) d'

variable {panels : List Dialogue} {calls : List Call} {bytes : List UInt8}

/-- Rounds whose calls every panel accepts come to what the calls come to on every panel alone. -/
theorem rounds_answered
    (h : ∀ d ∈ panels, ∃ d', Call.Accepted calls d d' ∧ d.GoesOn bytes (f d.line.panel) d') :
    let t := tour panels (rounds panels.length calls)
    t.result = .ok () ∧ ∀ place, GoesOnAt place bytes f panels t.panels := by
  intro t
  have hok : t.result = .ok () := rounds_accepted fun d hd =>
    let ⟨d', haccepted, _⟩ := h d hd
    ⟨d', haccepted⟩
  refine ⟨hok, fun place d hd => ?_⟩
  obtain ⟨last, hlast, hall⟩ := (rounds_ok hok).2 place d hd
  obtain ⟨d', haccepted, hgoes⟩ := h d (List.mem_of_getElem? hd)
  obtain rfl : last = d' := congrArg Prod.snd (hall.symm.trans haccepted)
  exact ⟨last, hlast, hgoes⟩

/-- The first panel that does not answer ends the rounds. It has got the call all the same, and the
panels after it have got nothing. -/
theorem rounds_unanswered (inStep : ∀ d ∈ panels, d.InStep) (works : call.Works r f) {k : Nat}
    {d : Dialogue} (hd : panels[k]? = some d) (silent : d.line.panel.responsive = false)
    (before : ∀ place < k, ∀ d, panels[place]? = some d → d.line.panel.responsive = true)
    (rest : List Call) :
    let t := tour panels (rounds panels.length (call :: rest))
    t.result = .error (.exchange (.timeout r.opcode.toByte)) ∧
      (∀ place ≤ k, GoesOnAt place r.frame.encode f panels t.panels) ∧
      ∀ place, k < place → t.panels[place]? = panels[place]? := by
  intro t
  obtain ⟨d', hvisit, hgoes⟩ := (inStep d (List.mem_of_getElem? hd)).visit works
  rw [silent] at hvisit
  have answered {place : Nat} (hplace : place < k) {d : Dialogue} (hd : panels[place]? = some d) :=
    (inStep d (List.mem_of_getElem? hd)).visit_of_responsive works (before place hplace d hd)
  obtain ⟨hresult, hbefore, hlast, hafter⟩ := rounds_error_first hd hvisit
    (fun place hplace d hd =>
      let ⟨d', hvisit, _⟩ := answered hplace hd
      ⟨d', hvisit⟩) rest
  refine ⟨hresult, fun place hplace other hother => ?_, hafter⟩
  rcases Nat.lt_or_eq_of_le hplace with hlt | rfl
  · obtain ⟨link, hlink, haccepted⟩ := hbefore place hlt other hother
    obtain ⟨last, hvisit, hgoes⟩ := answered hlt hother
    obtain rfl : link = last :=
      congrArg Prod.snd ((Call.accepted_singleton.mp haccepted).symm.trans hvisit)
    exact ⟨link, hlink, hgoes⟩
  · obtain rfl := Option.some.inj (hd.symm.trans hother)
    exact ⟨d', hlast, hgoes⟩

/-- A call that is turned away is turned away at the first panel, and no panel has got a byte. -/
theorem rounds_refused (inStep : ∀ d ∈ panels, d.InStep) {e : ArgumentError}
    (hrequests : call.requests = .error e) (somewhere : panels ≠ []) (rest : List Call) :
    let t := tour panels (rounds panels.length (call :: rest))
    t.result = .error (.argument e) ∧ ∀ place, GoesOnAt place [] id panels t.panels := by
  intro t
  have hfirst : panels[0]? = some (panels.head somewhere) := by
    rw [← List.head?_eq_getElem?, List.head?_eq_some_head somewhere]
  obtain ⟨d', hvisit, hgoes⟩ := (inStep _ (List.head_mem somewhere)).visit_of_error hrequests
  obtain ⟨hresult, -, hlast, hafter⟩ :=
    rounds_error_first hfirst hvisit (fun _ h => absurd h (Nat.not_lt_zero _)) rest
  refine ⟨hresult, fun place d hd => ?_⟩
  cases place with
  | zero =>
    obtain rfl := Option.some.inj (hfirst.symm.trans hd)
    exact ⟨d', hlast, hgoes⟩
  | succ place =>
    exact ⟨d, (hafter (place + 1) (Nat.succ_pos place)).trans hd,
      .refl (inStep d (List.mem_of_getElem? hd))⟩

end Marquee
