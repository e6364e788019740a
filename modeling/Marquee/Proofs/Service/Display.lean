import Mathlib.Data.List.Forall2
import Marquee.Bus.Record
import Marquee.Proofs.Service.Sections
import Marquee.Service.Diary

/-!
# Panels do not reach the display

What a panel makes of its calls is kept in the record of the relay and in the confirmed bitmap, and
these decide which calls a tick makes. They never decide what is drawn or when: two panel sides on
links and buses of any kind that have the same display (`PanelSide.SameDisplay`) still have it after
any tick, however differently their panels answer, and the two ticks draw the same bitmap and ask
for the same delay. Over whole runs this is `display_independent`.
-/

namespace Marquee

/-- Two ticks look the same to somebody who sees neither the panels nor the bus. -/
structure TickNote.SameDisplay (a b : TickNote) : Prop where
  /-- both came out of the same activity -/
  before : a.before = b.before
  /-- both went into the same activity -/
  after : a.after = b.after
  /-- both drew the same bitmap, or none -/
  drawn : a.drawn = b.drawn
  /-- both asked for the same delay -/
  periodMs : a.periodMs = b.periodMs
  /-- both left the same power state -/
  powered : a.sign.powered = b.sign.powered
  /-- both left the same inversion -/
  inverted : a.sign.inverted = b.sign.inverted
  /-- both left the same message, with the same end and the same scrolling -/
  message : a.sign.message = b.sign.message
  /-- both left the same offset -/
  scrolledOut : a.sign.scrolledOut = b.sign.scrolledOut

variable {ℓ ℓ' β β' : Type}

/-- Two panel sides agree in all but their panels, the bus and the journal, what is known about the
relay, and the confirmed bitmap. -/
structure PanelSide.SameDisplay (s : PanelSide ℓ β) (t : PanelSide ℓ' β') : Prop where
  /-- the same sign, up to the confirmed bitmap -/
  sign : s.hub.sign.forgetConfirmed = t.hub.sign.forgetConfirmed
  /-- the same timings -/
  timings : s.hub.timings = t.hub.timings
  /-- the same wish to keep running -/
  running : s.hub.running = t.hub.running
  /-- the same painter, with the same memory -/
  painter : s.painter = t.painter
  /-- both active or both idle -/
  activity : s.activity = t.activity

namespace PanelSide.SameDisplay

variable {s : PanelSide ℓ β} {t : PanelSide ℓ' β'}

theorem powered (h : s.SameDisplay t) : s.hub.sign.powered = t.hub.sign.powered :=
  (Sign.forgetConfirmed_eq_iff.mp h.sign).1

theorem meanwhile (h : s.SameDisplay t) (panels : Trio ℓ → Trio ℓ) (bus : β → β)
    (panels' : Trio ℓ' → Trio ℓ') (bus' : β' → β') :
    (s.meanwhile panels bus).SameDisplay (t.meanwhile panels' bus') :=
  ⟨h.sign, h.timings, h.running, h.painter, h.activity⟩

/-- An order is carried out on what both signs have in common. -/
theorem order (h : s.SameDisplay t) (order : Order) (nowMs : Nat) :
    (s.mapHub fun hub => (hub.applyOrder order nowMs).2).SameDisplay
      (t.mapHub fun hub => (hub.applyOrder order nowMs).2) where
  sign := by
    have hobey (c : Timings) (sign : Sign) :
        (sign.obey c messageSpan order nowMs).2.forgetConfirmed =
          (sign.forgetConfirmed.obey c messageSpan order nowMs).2 := by
      cases order <;> rfl
    change (s.hub.sign.obey s.hub.timings messageSpan order nowMs).2.forgetConfirmed =
      (t.hub.sign.obey t.hub.timings messageSpan order nowMs).2.forgetConfirmed
    rw [hobey, hobey, h.sign, h.timings]
  timings := h.timings
  running := h.running
  painter := h.painter
  activity := h.activity

/-- What a tick takes from the sign, and what it leaves there, does not depend on the confirmed
bitmap. -/
theorem signTick (h : s.SameDisplay t) (nowMs : Nat) (tickS : Single) :
    (s.hub.sign.tick nowMs tickS).1 = (t.hub.sign.tick nowMs tickS).1 ∧
      (s.hub.sign.tick nowMs tickS).2.forgetConfirmed =
        (t.hub.sign.tick nowMs tickS).2.forgetConfirmed := by
  have hs := s.hub.sign.tick_forgetConfirmed nowMs tickS
  have ht := t.hub.sign.tick_forgetConfirmed nowMs tickS
  rw [h.sign, ht] at hs
  exact ⟨(congrArg Prod.fst hs).symm, (congrArg Prod.snd hs).symm⟩

variable [Link ℓ] [Bus β] [Link ℓ'] [Bus β']

/-- A tick takes the same display to the same display. -/
theorem tick (h : s.SameDisplay t) (now : ClockReading) :
    (s.tick now).2.SameDisplay (t.tick now).2 where
  sign := by
    rw [s.tick_sign, t.tick_sign, h.powered, h.timings, (h.signTick _ _).2, h.sign]
  timings := by rw [(s.tick_rest now).1, (t.tick_rest now).1, h.timings]
  running := by rw [(s.tick_rest now).2.1, (t.tick_rest now).2.1, h.running]
  painter := by
    rw [s.tick_painter, t.tick_painter, h.powered, h.timings, h.painter, (h.signTick _ _).1]
  activity := by rw [(s.tick_rest now).2.2, (t.tick_rest now).2.2, h.powered]

/-- The ticks draw the same bitmap. -/
theorem drawing (h : s.SameDisplay t) (now : ClockReading) : s.drawing now = t.drawing now := by
  rw [s.drawing_eq, t.drawing_eq, picture, picture, h.powered, h.timings, h.painter,
    (h.signTick _ _).1]

theorem note (h : s.SameDisplay t) (now : ClockReading) :
    (s.note now).SameDisplay (t.note now) := by
  have htick := h.tick now
  have hperiod : (s.tick now).1 = (t.tick now).1 := by
    rw [s.tick_fst, t.tick_fst, htick.activity, htick.timings]
  obtain ⟨hpowered, hinverted, hmessage, hscrolled⟩ := Sign.forgetConfirmed_eq_iff.mp htick.sign
  exact ⟨h.activity, htick.activity, h.drawing now, hperiod, hpowered, hinverted, hmessage,
    hscrolled⟩

end PanelSide.SameDisplay

namespace Diary

/-- Two panel sides have the same display now, and had it after each of their ticks. -/
structure SameDisplay (d : Diary ℓ β) (e : Diary ℓ' β') : Prop where
  /-- now -/
  side : d.side.SameDisplay e.side
  /-- tick by tick -/
  past : List.Forall₂ TickNote.SameDisplay d.past e.past

namespace SameDisplay

variable {d : Diary ℓ β} {e : Diary ℓ' β'}

theorem start (timings : Timings) (bus : β) (bus' : β') (panels : Trio ℓ) (panels' : Trio ℓ') :
    (Diary.start timings bus panels).SameDisplay (Diary.start timings bus' panels') :=
  ⟨⟨rfl, rfl, rfl, rfl, rfl⟩, .nil⟩

variable [Link ℓ] [Bus β] [Link ℓ'] [Bus β']

theorem after (h : d.SameDisplay e) {first : Occasion ℓ β} {second : Occasion ℓ' β'}
    (same : first.cue = second.cue) : (d.after first).SameDisplay (e.after second) := by
  obtain ⟨panels, bus, cue⟩ := first
  obtain ⟨panels', bus', cue'⟩ := second
  obtain rfl : cue = cue' := same
  have hside := h.side.meanwhile panels bus panels' bus'
  cases cue with
  | order order nowMs => exact ⟨hside.order order nowMs, h.past⟩
  | tick now => exact ⟨hside.tick now, List.rel_append h.past (.cons (hside.note now) .nil)⟩

theorem course (h : d.SameDisplay e) {first : List (Occasion ℓ β)}
    {second : List (Occasion ℓ' β')} (same : first.map Occasion.cue = second.map Occasion.cue) :
    (d.course first).SameDisplay (e.course second) := by
  induction first generalizing second d e with
  | nil =>
    obtain rfl := List.map_eq_nil_iff.mp same.symm
    exact h
  | cons occasion rest ih =>
    obtain ⟨other, others, rfl, hcue, hrest⟩ := List.map_eq_cons_iff.mp same.symm
    exact ih (h.after hcue.symm) hrest.symm

end SameDisplay

end Diary

/-! ## Two runs -/

/-- Two runs from the same timings that meet the same orders and ticks, at the same times, over
links and buses of any kind in any states: tick by tick they have the same display. -/
theorem display_independent [Link ℓ] [Bus β] [Link ℓ'] [Bus β'] (timings : Timings) (bus : β)
    (bus' : β') (panels : Trio ℓ) (panels' : Trio ℓ') (first : List (Occasion ℓ β))
    (second : List (Occasion ℓ' β')) (same : first.map Occasion.cue = second.map Occasion.cue) :
    let d := (Diary.start timings bus panels).course first
    let e := (Diary.start timings bus' panels').course second
    List.Forall₂ TickNote.SameDisplay d.past e.past ∧ d.side.SameDisplay e.side := by
  intro d e
  have h : d.SameDisplay e := (Diary.SameDisplay.start timings bus bus' panels panels').course same
  exact ⟨h.past, h.side⟩

/-- The panels answer in one run and are silent in the other, whose bus turns all requests down. -/
theorem display_independent_silent :
    let panels : Trio (ChannelLink PanelLine) := ⟨⟨.new 0⟩, ⟨.new 1⟩, ⟨.new 2⟩⟩
    let silence (panels : Trio (ChannelLink PanelLine)) : Trio (ChannelLink PanelLine) :=
      panels.map fun link => ⟨link.channel.setResponsive false⟩
    let cues : List Cue := [.tick ⟨1700000000000, 0⟩, .order (.message "HELLO") 1700000000100,
      .tick ⟨1700000000200, 0⟩, .order (.power false) 1700000000300, .tick ⟨1700000000400, 0⟩]
    let first : List (Occasion (ChannelLink PanelLine) BusRecord) :=
      cues.map fun cue => ⟨id, id, cue⟩
    let second : List (Occasion (ChannelLink PanelLine) BusRecord) :=
      cues.map fun cue => ⟨silence, fun _ => ⟨[], true⟩, cue⟩
    let d := (Diary.start .default .new panels).course first
    let e := (Diary.start .default .new panels).course second
    first.map Occasion.cue = second.map Occasion.cue ∧
      List.Forall₂ TickNote.SameDisplay d.past e.past ∧ d.side.SameDisplay e.side :=
  ⟨rfl, display_independent _ _ _ _ _ _ _ rfl⟩

end Marquee
