import Mathlib.Data.List.Chain
import Mathlib.Data.List.Induction
import Marquee.History
import Marquee.Proofs.Link.Attempt
import Marquee.Proofs.Link.Calls
import Marquee.Proofs.Link.Requests
import Marquee.Proofs.Service.Confirmed
import Marquee.Proofs.Service.Overhearing

/-!
# Switches, acknowledgements and publications

The relay is switched at most once in a tick, and then before anything is written: so each tick does
in a run whose ticks have acknowledged some states so far, depending only on the last of these
(`TickNote.InTurn`). A switch that fails leaves that state as it is, so the next tick comes to the
same decision; one that succeeds makes its state the last one, so the next acknowledgement is of the
other. What was asked of the bus follows the acknowledgements one by one (`Diary.Switched`). Links
that keep a record have the noted switches on record, each where it was made
(`CallsMade.payloads_relay`).
-/

namespace Marquee

variable {ℓ β : Type}

/-! ## What the calls exchange -/

namespace Recorder

/-- The payloads of the exchanges with an opcode, in order. -/
def payloads (opcode : Opcode) (r : Recorder ℓ) : List (List UInt8) :=
  (r.log.filter fun record => record.opcode = opcode).map ExchangeRecord.payload

variable [Link ℓ]

/-- An exchange adds its payload to those with its opcode. -/
theorem payloads_exchange (opcode other : Opcode) (payload : List UInt8) (r : Recorder ℓ) :
    (Link.exchange other payload r).2.payloads opcode =
      r.payloads opcode ++ if other = opcode then [payload] else [] := by
  rw [exchange_eq rfl, payloads, payloads, List.filter_append, List.map_append]
  congr 1
  by_cases h : other = opcode <;> simp [h]

/-- Requests with other opcodes add no exchange with this one. -/
theorem payloads_exchangeAll {opcode : Opcode} {requests : List Request}
    (h : ∀ request ∈ requests, request.opcode ≠ opcode) (r : Recorder ℓ) :
    (Link.exchangeAll requests r).2.payloads opcode = r.payloads opcode := by
  induction requests generalizing r with
  | nil => rfl
  | cons request rest ih =>
    obtain ⟨hother, hrest⟩ := List.forall_mem_cons.mp h
    have hexchange := payloads_exchange opcode request.opcode request.payload.toList r
    rw [if_neg hother, List.append_nil] at hexchange
    rw [Link.exchangeAll, Attempt.bind_apply]
    generalize (Link.exchange request.opcode request.payload.toList r : _ × Recorder ℓ) = result
      at hexchange
    rcases result with ⟨e | answer, t⟩
    · exact hexchange
    · exact (ih hrest t).trans hexchange

/-- A single request adds its payload, whatever comes of it. -/
theorem payloads_exchangeAll_single (request : Request) (r : Recorder ℓ) :
    (Link.exchangeAll [request] r).2.payloads request.opcode =
      r.payloads request.opcode ++ [request.payload.toList] := by
  have hexchange := payloads_exchange request.opcode request.opcode request.payload.toList r
  rw [if_pos rfl] at hexchange
  rw [Link.exchangeAll, Attempt.bind_apply]
  generalize (Link.exchange request.opcode request.payload.toList r : _ × Recorder ℓ) = result
    at hexchange
  rcases result with ⟨e | answer, t⟩ <;> exact hexchange

end Recorder

/-- The payloads of the exchanges with the relay opcode that a call makes. -/
def PanelCall.relayPayloads : PanelCall → List (List UInt8)
  | .relay on => [[if on then 1 else 0]]
  | .image _ => []

section

variable [Link ℓ]

/-- A switch is one exchange with the relay opcode, which carries the wanted state, and an image
is none. -/
theorem PanelCall.payloads_perform (call : PanelCall) (r : Recorder ℓ) :
    (call.perform r).2.payloads .relay = r.payloads .relay ++ call.relayPayloads := by
  cases call with
  | relay on =>
    have hswitch : (Link.switchRelay on : Attempt (Recorder ℓ) LinkError Unit) =
        Link.exchangeAll [⟨.relay, .single (if on then 1 else 0)⟩] :=
      Link.tell_eq_carry (.relay on)
    rw [perform, hswitch]
    exact Recorder.payloads_exchangeAll_single ⟨.relay, .single (if on then 1 else 0)⟩ r
  | image bitmap =>
    obtain ⟨hfirst, hsecond⟩ := Link.halves_fit bitmap.length_toList
    have hrequests : (Call.showHalves bitmap.toList).requests =
        .ok [⟨.firstHalf, ⟨_, hfirst⟩⟩, ⟨.secondHalf, ⟨_, hsecond⟩⟩, ⟨.flip, .empty⟩] := by
      rw [Call.requests, if_pos bitmap.length_toList, Request.of?_of_le hfirst,
        Request.of?_of_le hsecond]
      rfl
    rw [perform, Link.showHalves_eq_carry, hrequests, relayPayloads, List.append_nil]
    exact Recorder.payloads_exchangeAll (by simp) _

/-- Each link has on record the switches that are noted for its place, and no others. -/
theorem CallsMade.payloads_relay {first last : Trio (Recorder ℓ)} {calls : List CallNote}
    (h : CallsMade first calls last) (place : Fin 3) :
    (last.get place).payloads .relay = (first.get place).payloads .relay ++
      calls.flatMap fun note => if note.place = place then note.call.relayPayloads else [] := by
  induction h with
  | none panels => rw [List.flatMap_nil, List.append_nil]
  | @next panels last called call rest answer link made later ih =>
    have hperform : link.payloads .relay =
        (panels.get called).payloads .relay ++ call.relayPayloads := by
      rw [← call.payloads_perform, made]
    have htaken : (Link.takeRemarks link).2.payloads .relay = link.payloads .relay := rfl
    rw [ih, List.flatMap_cons]
    by_cases here : called = place
    · subst here
      rw [Trio.get_set_self, htaken, hperform, if_pos rfl, List.append_assoc]
    · rw [Trio.get_set_of_ne _ _ here, if_neg here, List.nil_append]

end

/-! ## One tick -/

/-- What a tick does about the relay if `known` is the state that was acknowledged last: it switches
the relay first of all to the state that it wants, unless this is the known one, and calls the
panels for nothing but images from then on. -/
def TickNote.InTurn (known : Option Bool) (note : TickNote) : Prop :=
  ∃ succeeded images, (∀ call ∈ images, ∃ bitmap, call.call = .image bitmap) ∧
    note.calls =
      (if known = some note.sign.powered then [] else [.switch note.sign.powered succeeded]) ++
        images

/-- Images acknowledge no relay state. -/
theorem acknowledged_images {images : List CallNote}
    (h : ∀ call ∈ images, ∃ bitmap, call.call = .image bitmap) :
    images.filterMap CallNote.acknowledged? = [] := by
  rw [List.filterMap_eq_nil_iff]
  rintro ⟨place, call, succeeded⟩ hmem
  obtain ⟨bitmap, rfl⟩ := h _ hmem
  rfl

namespace TickNote.InTurn

variable {known : Option Bool} {note : TickNote} {on : Bool}

/-- A tick that wants another state than the known one switches the relay. -/
theorem relay_mem (h : note.InTurn known) (hne : known ≠ some note.sign.powered) :
    ∃ succeeded, .switch note.sign.powered succeeded ∈ note.calls := by
  obtain ⟨succeeded, images, -, hcalls⟩ := h
  rw [if_neg hne] at hcalls
  exact ⟨succeeded, hcalls ▸ List.mem_cons_self⟩

/-- A switch in a tick is the only one, and it is to the wanted state, which is not the known one.
It is all that the tick acknowledges, or fails to. -/
theorem of_relay_mem (h : note.InTurn known) {place : Fin 3} {succeeded : Bool}
    (hmem : ⟨place, .relay on, succeeded⟩ ∈ note.calls) :
    note.sign.powered = on ∧ known ≠ some on ∧
      note.acknowledged = if succeeded then [on] else [] := by
  obtain ⟨outcome, images, himages, hcalls⟩ := h
  have hnot : ⟨place, .relay on, succeeded⟩ ∉ images := fun hmem => by
    obtain ⟨bitmap, hcall⟩ := himages _ hmem
    cases hcall
  rw [hcalls, List.mem_append, or_iff_left hnot] at hmem
  by_cases hknown : known = some note.sign.powered
  · rw [if_pos hknown] at hmem
    cases hmem
  · rw [if_neg hknown] at hmem hcalls
    cases List.mem_singleton.mp hmem
    refine ⟨rfl, hknown, ?_⟩
    rw [acknowledged, hcalls, List.filterMap_append, acknowledged_images himages]
    cases succeeded <;> rfl

/-- A tick acknowledges nothing, or the state that it wants, which is then not the known one. -/
theorem acknowledged_cases (h : note.InTurn known) :
    note.acknowledged = [] ∨
      note.acknowledged = [note.sign.powered] ∧ known ≠ some note.sign.powered := by
  by_cases hknown : known = some note.sign.powered
  · obtain ⟨succeeded, images, himages, hcalls⟩ := h
    rw [if_pos hknown, List.nil_append] at hcalls
    rw [acknowledged, hcalls]
    exact .inl (acknowledged_images himages)
  · obtain ⟨succeeded, hmem⟩ := h.relay_mem hknown
    obtain ⟨-, -, hacknowledged⟩ := h.of_relay_mem hmem
    cases succeeded with
    | false => exact .inl hacknowledged
    | true => exact .inr ⟨hacknowledged, hknown⟩

end TickNote.InTurn

/-! ## Ticks one after another -/

/-- Every tick comes in its turn after the ones before it. -/
def InTurns (past : List TickNote) : Prop :=
  ∀ before note later, past = before ++ note :: later →
    note.InTurn (acknowledgements before).getLast?

/-- The acknowledgements of a tick follow those of the ticks before it. -/
theorem acknowledgements_concat (past : List TickNote) (note : TickNote) :
    acknowledgements (past ++ [note]) = acknowledgements past ++ note.acknowledged := by
  rw [acknowledgements, List.flatMap_append, List.flatMap_singleton, acknowledgements]

/-- A switch that failed adds no acknowledgement. -/
theorem acknowledgements_failed {known : Option Bool} {note : TickNote} {on : Bool}
    (h : note.InTurn known) (hfailed : .switch on false ∈ note.calls) (past : List TickNote) :
    acknowledgements (past ++ [note]) = acknowledgements past := by
  obtain ⟨-, -, hnone⟩ := h.of_relay_mem hfailed
  rw [acknowledgements_concat, hnone, if_neg Bool.false_ne_true, List.append_nil]

namespace InTurns

variable {past : List TickNote} {note : TickNote} {on : Bool}

theorem nil : InTurns [] := fun before _ _ h =>
  absurd h.symm (List.append_ne_nil_of_right_ne_nil before (List.cons_ne_nil _ _))

/-- A tick in its turn may follow ticks in theirs. -/
theorem concat (h : InTurns past) (hnote : note.InTurn (acknowledgements past).getLast?) :
    InTurns (past ++ [note]) := by
  intro before note' later hsplit
  rcases split_concat hsplit with ⟨rfl, rfl, -⟩ | ⟨init, -, hpast⟩
  · exact hnote
  · exact h before note' init hpast

theorem of_append {more : List TickNote} (h : InTurns (past ++ more)) : InTurns past := by
  rintro before note later rfl
  exact h before note (later ++ more) (by rw [List.append_assoc, List.cons_append])

/-- No state is acknowledged twice in a row. -/
theorem isChain (h : InTurns past) : (acknowledgements past).IsChain (· ≠ ·) := by
  induction past using List.reverseRecOn with
  | nil => exact .nil
  | append_singleton past note ih =>
    have hpast := ih h.of_append
    rw [acknowledgements_concat]
    rcases (h past note [] rfl).acknowledged_cases with hnone | ⟨hone, hother⟩
    · rwa [hnone, List.append_nil]
    · rw [hone, List.isChain_append]
      refine ⟨hpast, .singleton _, fun last hlast on hon => ?_⟩
      rintro rfl
      obtain rfl := Option.some.inj hon
      exact hother hlast

/-- While a state is wanted and not acknowledged, the state that was acknowledged last stays. -/
theorem acknowledgements_waiting {before waiting later : List TickNote}
    (h : InTurns (before ++ waiting ++ later))
    (hother : (acknowledgements before).getLast? ≠ some on)
    (hwaiting : ∀ note ∈ waiting, note.sign.powered = on ∧ .switch on true ∉ note.calls) :
    acknowledgements (before ++ waiting) = acknowledgements before := by
  induction waiting generalizing before with
  | nil => rw [List.append_nil]
  | cons note rest ih =>
    have hnote := h before note (rest ++ later) (by simp)
    -- The first tick that waits must switch, and its switch fails, so it adds no acknowledgement.
    obtain ⟨⟨rfl, hunanswered⟩, hrest⟩ := List.forall_mem_cons.mp hwaiting
    obtain ⟨succeeded, hmem⟩ := hnote.relay_mem hother
    cases succeeded with
    | true => exact absurd hmem hunanswered
    | false =>
      have hfailed := acknowledgements_failed hnote hmem before
      rw [List.append_cons, ih (by simpa using h) (by rwa [hfailed]) hrest, hfailed]

/-- A switch that failed is tried again in every tick, as long as its state is wanted and was not
acknowledged. -/
theorem retries {before waiting later : List TickNote} {failed next : TickNote}
    (h : InTurns (before ++ failed :: waiting ++ next :: later))
    (hswitch : .switch on false ∈ failed.calls)
    (hwaiting : ∀ note ∈ waiting, note.sign.powered = on ∧ .switch on true ∉ note.calls)
    (hnext : next.sign.powered = on) : ∃ succeeded, .switch on succeeded ∈ next.calls := by
  have hturn := h before failed (waiting ++ next :: later) (by simp)
  have hfailed := acknowledgements_failed hturn hswitch before
  obtain ⟨-, hother, -⟩ := hturn.of_relay_mem hswitch
  have hturns : InTurns (before ++ [failed] ++ waiting ++ next :: later) := by simpa using h
  have hlast := hturns.acknowledgements_waiting (by rwa [hfailed]) hwaiting
  subst hnext
  exact (hturns _ next later rfl).relay_mem (by rwa [hlast, hfailed])

end InTurns

/-! ## What a tick does -/

namespace PanelSide

variable [Link ℓ]

/-- Once the relay is kept, a tick has nothing more to do with it or with the bus. -/
theorem tick_kept [Bus β] (now : ClockReading) (s : PanelSide ℓ β) :
    (s.tick now).2.relay = (s.keepRelay s.hub.sign.powered).relay ∧
      (s.tick now).2.hub.bus = (s.keepRelay s.hub.sign.powered).hub.bus := by
  have hrelay : s.attended.relay = (s.keepRelay s.hub.sign.powered).relay :=
    (alike_followPower _ _).relay
  have hbus : s.attended.hub.bus = (s.keepRelay s.hub.sign.powered).hub.bus := followPower_bus _ _
  have hredraw : (s.attended.redraw now).relay = s.attended.relay := by
    rw [(s.attended.alike_redraw now).relay]
    split <;> rfl
  rw [tick_snd]
  split
  · exact ⟨hredraw.trans hrelay, (redraw_bus now _).trans hbus⟩
  · exact ⟨hrelay, hbus⟩

/-- A tick leaves the power state as it read it. -/
theorem note_powered [Bus β] (now : ClockReading) (s : PanelSide ℓ β) :
    (s.note now).sign.powered = s.hub.sign.powered := by
  have hsign := congrArg Sign.powered (s.tick_sign now)
  refine Eq.trans hsign ?_
  split
  · change (s.hub.sign.tick _ _).2.powered = _
    rw [Sign.tick_rest]
  · rfl

/-- After the relay a tick makes no calls but for images. -/
theorem redrawn_image [Bus β] (now : ClockReading) (s : PanelSide ℓ β) :
    ∀ call ∈ if s.hub.sign.powered then s.attended.redrawNotes now else [],
      ∃ bitmap, call.call = .image bitmap := by
  intro call hmem
  split at hmem
  · rw [redrawNotes] at hmem
    split at hmem
    · obtain ⟨place, -, rfl⟩ := List.mem_map.mp hmem
      exact ⟨_, rfl⟩
    · cases hmem
  · cases hmem

/-- In a tick the first panel is sent one relay command if the known state is not the wanted one,
with the wanted state in it. Otherwise, and to the other panels, none is sent. -/
theorem payloads_tick [Bus β] (now : ClockReading) (s : PanelSide (Recorder ℓ) β)
    (place : Fin 3) :
    ((s.tick now).2.panels.get place).payloads .relay = (s.panels.get place).payloads .relay ++
      if place = relayPlace ∧ s.relay ≠ some s.hub.sign.powered then
        [[if s.hub.sign.powered then 1 else 0]]
      else [] := by
  have himages : (if s.hub.sign.powered then s.attended.redrawNotes now else []).flatMap
      (fun note => if note.place = place then note.call.relayPayloads else []) = [] := by
    refine List.flatMap_eq_nil_iff.mpr fun note hmem => ?_
    obtain ⟨bitmap, hcall⟩ := s.redrawn_image now note hmem
    rw [hcall, PanelCall.relayPayloads, ite_self]
  rw [(s.callsMade_tick now).payloads_relay, tickNotes, List.flatMap_append, himages,
    List.append_nil, relayNotes]
  by_cases hknown : s.relay = some s.hub.sign.powered
  · rw [if_pos hknown, if_neg fun h => h.2 hknown, List.flatMap_nil]
  · rw [if_neg hknown, List.flatMap_singleton]
    by_cases here : place = relayPlace
    · rw [if_pos here.symm, if_pos ⟨here, hknown⟩, PanelCall.relayPayloads]
    · rw [if_neg (Ne.symm here), if_neg fun h => here h.1]

/-- Every tick is in its turn after the relay state that it knows. -/
theorem note_inTurn [Bus β] (now : ClockReading) (s : PanelSide ℓ β) :
    (s.note now).InTurn s.relay := by
  refine ⟨(s.switchRelay s.hub.sign.powered).1.isOk, _, s.redrawn_image now, ?_⟩
  rw [note_powered, note_calls, tickNotes, relayNotes, CallNote.switch]

/-- What is acknowledged in a tick is what is acknowledged when the relay is kept. -/
theorem note_acknowledged [Bus β] (now : ClockReading) (s : PanelSide ℓ β) :
    (s.note now).acknowledged =
      (s.relayNotes s.hub.sign.powered).filterMap CallNote.acknowledged? := by
  rw [TickNote.acknowledged, note_calls, tickNotes, List.filterMap_append,
    acknowledged_images (s.redrawn_image now), List.append_nil]

/-- An acknowledgement makes the state known and is published, and nothing else is. -/
theorem keepRelay_acknowledged [Bus β] (powered : Bool) (s : PanelSide ℓ (Overheard β)) :
    let acknowledged := (s.relayNotes powered).filterMap CallNote.acknowledged?
    (s.keepRelay powered).relay = acknowledged.getLast?.or s.relay ∧
      (s.keepRelay powered).hub.bus.asked =
        s.hub.bus.asked ++ acknowledged.map relayPublication := by
  intro acknowledged
  by_cases hknown : s.relay = some powered
  · have hnone : acknowledged = [] := congrArg (List.filterMap _) (if_pos hknown)
    rw [hnone, keepRelay_of_known hknown]
    exact ⟨rfl, (List.append_nil _).symm⟩
  · have hbus := s.switchRelay_bus powered
    have hrelay := s.switchRelay_relay powered
    have hone : acknowledged =
        [.switch powered (s.switchRelay powered).1.isOk].filterMap CallNote.acknowledged? :=
      congrArg (List.filterMap _) (if_neg hknown)
    rw [hone, keepRelay, if_neg hknown]
    generalize s.switchRelay powered = result at hbus hrelay
    rcases result with ⟨e | ⟨⟩, t⟩
    · exact ⟨hrelay, (congrArg Overheard.asked hbus).trans (List.append_nil _).symm⟩
    · refine ⟨(alike_publishRelay _ _).relay.trans hrelay, ?_⟩
      change ((t.say _ _).hub.request _ _).bus.asked = _
      rw [Hub.request_bus, ← hbus]
      rfl

end PanelSide

/-! ## Runs -/

namespace Diary

/-- What holds after all occasions of an overheard run. -/
structure Switched (d : Diary ℓ (Overheard β)) : Prop where
  /-- every tick came in its turn -/
  turns : InTurns d.past
  /-- the known state is the one that was acknowledged last -/
  known : d.side.relay = (acknowledgements d.past).getLast?
  /-- each acknowledged state was published once, and nothing else was asked of the bus -/
  asked : d.side.hub.bus.asked = (acknowledgements d.past).map relayPublication

namespace Switched

variable {d : Diary ℓ (Overheard β)}

theorem start (timings : Timings) (bus : β) (panels : Trio ℓ) :
    (Diary.start timings (.ofBus bus) panels).Switched where
  turns := .nil
  known := rfl
  asked := rfl

theorem meanwhile (h : d.Switched) (panels : Trio ℓ → Trio ℓ) (bus : β → β) :
    Switched { d with side := d.side.meanwhile panels (Overheard.mapBus bus) } :=
  ⟨h.turns, h.known, h.asked⟩

variable [Link ℓ] [Bus β]

/-- A tick acknowledges at most the wanted state, which is then known and published. -/
theorem tick (h : d.Switched) (now : ClockReading) :
    Switched ⟨(d.side.tick now).2, d.past ++ [d.side.note now]⟩ := by
  obtain ⟨hrelay, hbus⟩ := d.side.tick_kept now
  obtain ⟨hknown, hasked⟩ := d.side.keepRelay_acknowledged d.side.hub.sign.powered
  rw [← d.side.note_acknowledged now] at hknown hasked
  refine ⟨h.turns.concat (h.known ▸ d.side.note_inTurn now), ?_, ?_⟩
  · change (d.side.tick now).2.relay = _
    rw [hrelay, hknown, h.known, acknowledgements_concat, List.getLast?_append]
  · change (d.side.tick now).2.hub.bus.asked = _
    rw [hbus, hasked, h.asked, acknowledgements_concat, List.map_append]

theorem after (h : d.Switched) (occasion : Occasion ℓ β) :
    (d.after occasion.overheard).Switched := by
  obtain ⟨panels, bus, cue⟩ := occasion
  have hmeanwhile := h.meanwhile panels bus
  cases cue with
  | order order nowMs => exact ⟨hmeanwhile.turns, hmeanwhile.known, hmeanwhile.asked⟩
  | tick now => exact hmeanwhile.tick now

theorem course (h : d.Switched) (occasions : List (Occasion ℓ β)) :
    (d.course (occasions.map Occasion.overheard)).Switched := by
  induction occasions generalizing d with
  | nil => exact h
  | cons occasion rest ih => exact ih (h.after occasion)

end Switched

end Diary

/-- Whatever the orders, the times and the answers of the panels and of the bus, on a bus that is
listened in on without a difference: each tick of a run comes in its turn, that is, it switches the
relay of the first panel once and before any image, if the state that was acknowledged last is not
the one that it wants, and else not at all. So a switch that failed is tried again in every tick, as
long as its state is wanted and was not acknowledged. No state is acknowledged twice in a row, and
all that is asked of the bus is the publication of each acknowledged state, in order.

The calls noted are those of the ticks, each made on the link that the calls before it have left and
with the answer of that link, and the wanted state is the one that a tick reads. On links that keep
a record, each switch is one exchange with the relay opcode on the first panel, and no panel has any
others. -/
theorem relay_switched_in_turn {ℓ β : Type} [Link ℓ] [Bus β] (timings : Timings) (bus : β)
    (panels : Trio ℓ) (occasions : List (Occasion ℓ β)) :
    let d := (Diary.start timings bus panels).course occasions
    let heard := (Diary.start timings (.ofBus bus) panels).course
      (occasions.map Occasion.overheard)
    heard.plain = d ∧
    (∀ before note later, d.past = before ++ note :: later →
      note.InTurn (acknowledgements before).getLast?) ∧
    (∀ before failed waiting next later on,
      d.past = before ++ failed :: waiting ++ next :: later →
      .switch on false ∈ failed.calls →
      (∀ note ∈ waiting, note.sign.powered = on ∧ .switch on true ∉ note.calls) →
      next.sign.powered = on → ∃ succeeded, .switch on succeeded ∈ next.calls) ∧
    (acknowledgements d.past).IsChain (· ≠ ·) ∧
    heard.side.hub.bus.asked = (acknowledgements d.past).map relayPublication ∧
    (∀ (s : PanelSide ℓ β) (now : ClockReading),
      (⟨s, []⟩ : Watched ℓ β).tick now =
        ((s.tick now).1, ⟨(s.tick now).2, (s.note now).calls⟩) ∧
      CallsMade s.panels (s.note now).calls (s.tick now).2.panels ∧
      (s.note now).sign.powered = s.hub.sign.powered) ∧
    ∀ (s : PanelSide (Recorder ℓ) β) (now : ClockReading) (place : Fin 3),
      ((s.tick now).2.panels.get place).payloads .relay =
        (s.panels.get place).payloads .relay ++
          if place = PanelSide.relayPlace ∧ s.relay ≠ some s.hub.sign.powered then
            [[if s.hub.sign.powered then 1 else 0]]
          else [] := by
  intro d heard
  have hplain : heard.plain = d := Diary.plain_course _ occasions
  have hswitched : heard.Switched := (Diary.Switched.start timings bus panels).course occasions
  have hpast : heard.past = d.past := congrArg Diary.past hplain
  have hturns : InTurns d.past := hpast ▸ hswitched.turns
  refine ⟨hplain, hturns, ?_, hturns.isChain, ?_, fun s now => ⟨?_, ?_, s.note_powered now⟩,
    fun s now place => s.payloads_tick now place⟩
  · intro before failed waiting next later on hsplit hfailed hwaiting hnext
    rw [hsplit] at hturns
    exact hturns.retries hfailed hwaiting hnext
  · rw [hswitched.asked, hpast]
  · rw [Watched.tick_eq, List.nil_append, s.note_calls]
  · rw [s.note_calls]
    exact s.callsMade_tick now

end Marquee
