import Marquee.Bus.Record
import Marquee.History
import Marquee.Proofs.Service.Lines

/-!
# The shown bitmaps and what is known about them

A drawn bitmap is not written again while it is the last one that all panels have accepted. In
the meantime another bitmap may have reached some of the panels and not the others: the known
bitmap stays, although it is not the one on every panel any more (`Overtaken`). The invariant
`FrontHistory` says that this is the only way in which the two can part, and so it is what
decides whether a drawn bitmap is on all panels at the end of a tick (`front_eq_iff`).
-/

namespace Marquee

/-- Every panel answered. -/
def TickRecord.AllAnswer (r : TickRecord) : Prop := ∀ place, r.responsive place = true

/-- A tick drew the bitmap and all panels accepted it. Since then every tick has drawn, and all
panels have accepted no other bitmap. -/
def Accepted (bitmap : Bitmap) : List TickRecord → Prop :=
  Stands (fun r => r.drawn = some bitmap ∧ r.AllAnswer)
    (fun r => r.drawn ≠ none ∧ (r.AllAnswer → r.drawn = some bitmap))

/-- All panels accepted the bitmap, and since then a tick has drawn another one while some panels
answered and some did not. -/
def Overtaken (bitmap : Bitmap) : List TickRecord → Prop :=
  Contested (fun r => r.drawn = some bitmap ∧ r.AllAnswer)
    (fun r => r.drawn ≠ none ∧ (r.AllAnswer → r.drawn = some bitmap))
    (fun r => r.drawn ≠ some bitmap ∧ ∃ place, r.responsive place = true)

/-- Whether a bitmap is the accepted one is decided by the last tick and by what held before. -/
theorem accepted_concat {bitmap : Bitmap} {past : List TickRecord} {r : TickRecord} :
    Accepted bitmap (past ++ [r]) ↔
      r.drawn = some bitmap ∧ r.AllAnswer ∨
        Accepted bitmap past ∧ r.drawn ≠ none ∧ (r.AllAnswer → r.drawn = some bitmap) :=
  stands_concat

/-- Whether a bitmap was overtaken is decided by the last tick and by what held before. -/
theorem overtaken_concat {bitmap : Bitmap} {past : List TickRecord} {r : TickRecord} :
    Overtaken bitmap (past ++ [r]) ↔
      (r.drawn ≠ none ∧ (r.AllAnswer → r.drawn = some bitmap)) ∧
        (Overtaken bitmap past ∨
          Accepted bitmap past ∧ r.drawn ≠ some bitmap ∧ ∃ place, r.responsive place = true) :=
  contested_concat

namespace Chronicle

variable {β : Type} {c : Chronicle β}

/-- What the panels show, and what they are known to show, is what the ticks so far have made of
it. -/
structure FrontHistory (c : Chronicle β) : Prop where
  /-- all lines are in step -/
  inStep : ∀ place, (c.side.line place).InStep
  /-- the known bitmap is the accepted one -/
  known : ∀ bitmap, c.side.known = some bitmap ↔ Accepted bitmap c.past
  /-- some panel shows something else exactly if the known bitmap was overtaken -/
  overtaken : ∀ bitmap, c.side.known = some bitmap →
    ((∃ place, (c.side.panel place).front ≠ bitmap) ↔ Overtaken bitmap c.past)

namespace FrontHistory

theorem start [Bus β] (hub : Hub β) (p₀ p₁ p₂ : Firmware) :
    (Chronicle.start hub ⟨⟨.ofPanel p₀⟩, ⟨.ofPanel p₁⟩, ⟨.ofPanel p₂⟩⟩).FrontHistory where
  inStep place :=
    match place with
    | 0 => PanelLine.inStep_ofPanel p₀
    | 1 => PanelLine.inStep_ofPanel p₁
    | 2 => PanelLine.inStep_ofPanel p₂
  known bitmap := iff_of_false (Option.some_ne_none bitmap).symm not_stands_nil
  overtaken bitmap h := absurd h.symm (Option.some_ne_none bitmap)

/-- Orders and panels that fall silent change neither a shown bitmap nor what is known about it. -/
theorem congr (h : c.FrontHistory) {side : PanelSide (ChannelLink PanelLine) β}
    (hstep : ∀ place, (side.line place).InStep) (hknown : side.known = c.side.known)
    (hfront : ∀ place, (side.panel place).front = (c.side.panel place).front) :
    FrontHistory { c with side := side } where
  inStep := hstep
  known bitmap := by rw [hknown]; exact h.known bitmap
  overtaken bitmap hb := by
    simp only [hfront]
    exact h.overtaken bitmap (hknown.symm.trans hb)

variable [Bus β]

/-- An order concerns neither the panels nor what they are known to show. -/
theorem order (h : c.FrontHistory) (order : Order) (nowMs : Nat) :
    (c.after (.order order nowMs)).FrontHistory := by
  refine h.congr h.inStep ?_ fun _ => rfl
  have hconfirmed := c.side.hub.sign.obey_confirmed c.side.hub.timings messageSpan order nowMs
  change (if c.side.activity = .active then _ else none) = c.side.known
  rw [PanelSide.known, ← hconfirmed]
  rfl

/-- A panel that falls silent or answers again shows what it showed. -/
theorem setResponsive (h : c.FrontHistory) (place : Fin 3) (on : Bool) :
    (c.after (.responsive place on)).FrontHistory := by
  have hline (other : Fin 3) :
      ((c.side.setResponsive place on).line other).InStep ∧
        ((c.side.setResponsive place on).panel other).front = (c.side.panel other).front := by
    rw [PanelSide.panel, PanelSide.line, PanelSide.setResponsive]
    rcases eq_or_ne place other with rfl | hne
    · rw [Trio.get_set_self]
      exact ⟨(h.inStep place).setResponsive on, rfl⟩
    · rw [Trio.get_set_of_ne _ _ hne]
      exact ⟨h.inStep other, rfl⟩
  exact h.congr (fun other => (hline other).1) rfl fun other => (hline other).2

/-- A tick that draws nothing forgets what the panels were known to show. -/
theorem tick_of_none (h : c.FrontHistory) {now : ClockReading} (hdraw : c.side.drawing now = none) :
    (c.after (.tick now)).FrontHistory := by
  have hforgot : (c.side.tick now).2.known = none := PanelSide.tick_known_of_none hdraw
  refine ⟨fun place => (PanelSide.tick_front_of_none hdraw (h.inStep place)).1, fun bitmap => ?_,
    fun bitmap hb => ?_⟩
  · refine iff_of_false (fun hb => Option.some_ne_none bitmap (hb.symm.trans hforgot)) fun hb => ?_
    rcases accepted_concat.mp hb with ⟨hdrawn, -⟩ | ⟨-, hdrawn, -⟩
    · exact Option.some_ne_none bitmap (hdrawn.symm.trans hdraw)
    · exact hdrawn hdraw
  · exact absurd (hb.symm.trans hforgot) (Option.some_ne_none bitmap)

/-- If all panels answer, the drawn bitmap is the known one from then on. -/
theorem tick_of_all (h : c.FrontHistory) {now : ClockReading} {drawn : Bitmap}
    (hdraw : c.side.drawing now = some drawn) (answers : (c.record now).AllAnswer) :
    (c.after (.tick now)).FrontHistory := by
  have hdrawn : (c.record now).drawn = some drawn := hdraw
  have hknown : (c.side.tick now).2.known = some drawn :=
    (PanelSide.tick_known_of_some hdraw h.inStep).trans (if_pos answers)
  have hfront (place : Fin 3) := (PanelSide.tick_front_of_some hdraw (h.inStep place)).2.2
  change FrontHistory ⟨(c.side.tick now).2, c.past ++ [c.record now]⟩
  refine ⟨fun place => (PanelSide.tick_front_of_some hdraw (h.inStep place)).1, fun bitmap => ?_,
    fun bitmap hb => ?_⟩
  · rw [hknown, accepted_concat, hdrawn]
    simp [answers]
  · obtain rfl : drawn = bitmap := Option.some.inj (hknown.symm.trans hb)
    rw [overtaken_concat, hdrawn, ← h.known]
    -- If the bitmap was known before, it is not written, and the panels that show another one
    -- still do. Otherwise all panels take it over.
    by_cases hsame : c.side.known = some drawn
    · simp [hfront, hsame, ← h.overtaken drawn hsame]
    · have hnot : ¬ Overtaken drawn c.past := fun hover => hsame ((h.known _).mpr hover.stands)
      have hanswers (place : Fin 3) : (c.side.panel place).responsive = true := answers place
      simp [hfront, hsame, hnot, hanswers]

/-- When the panels that answer have taken over another bitmap, some panel shows something else than
the old one exactly if it did so before or it answers. -/
theorem exists_taken_over {front : Fin 3 → Bitmap} {answers : Fin 3 → Bool} {drawn bitmap : Bitmap}
    (hne : drawn ≠ bitmap) :
    (∃ place, (if answers place then drawn else front place) ≠ bitmap) ↔
      (∃ place, front place ≠ bitmap) ∨ ∃ place, answers place = true := by
  constructor
  · rintro ⟨place, hplace⟩
    by_cases hanswers : answers place = true
    · exact .inr ⟨place, hanswers⟩
    · rw [if_neg hanswers] at hplace
      exact .inl ⟨place, hplace⟩
  · rintro (⟨place, hplace⟩ | ⟨place, hanswers⟩)
    · refine ⟨place, ?_⟩
      split
      · exact hne
      · exact hplace
    · refine ⟨place, ?_⟩
      rw [if_pos hanswers]
      exact hne

/-- If some panel does not answer, the known bitmap stays. It is overtaken as soon as another panel
takes over another one. -/
theorem tick_of_not_all (h : c.FrontHistory) {now : ClockReading} {drawn : Bitmap}
    (hdraw : c.side.drawing now = some drawn) (silent : ¬ (c.record now).AllAnswer) :
    (c.after (.tick now)).FrontHistory := by
  have hdrawn : (c.record now).drawn = some drawn := hdraw
  have hknown : (c.side.tick now).2.known = c.side.known :=
    (PanelSide.tick_known_of_some hdraw h.inStep).trans (if_neg silent)
  have hfront (place : Fin 3) := (PanelSide.tick_front_of_some hdraw (h.inStep place)).2.2
  change FrontHistory ⟨(c.side.tick now).2, c.past ++ [c.record now]⟩
  refine ⟨fun place => (PanelSide.tick_front_of_some hdraw (h.inStep place)).1, fun bitmap => ?_,
    fun bitmap hb => ?_⟩
  · rw [hknown, accepted_concat, hdrawn, ← h.known]
    simp [silent]
  · replace hb : c.side.known = some bitmap := hknown.symm.trans hb
    rw [overtaken_concat, hdrawn, ← h.known, ← h.overtaken bitmap hb]
    by_cases hsame : drawn = bitmap
    · simp [hfront, hb, hsame, silent]
    · have hother : c.side.known ≠ some drawn := fun hd =>
        hsame (Option.some.inj (hd.symm.trans hb))
      have written (place : Fin 3) : ((c.side.tick now).2.panel place).front =
          if (c.side.panel place).responsive then drawn else (c.side.panel place).front := by
        simp only [hfront, hother, ne_eq, not_false_eq_true, true_and]
      have hresponsive (place : Fin 3) :
          (c.record now).responsive place = (c.side.panel place).responsive := rfl
      simp only [written]
      rw [exists_taken_over hsame]
      simp [hb, hsame, silent, hresponsive]

/-- A tick keeps the history, whether it draws nothing, writes nothing or writes to all panels. -/
theorem tick (h : c.FrontHistory) (now : ClockReading) : (c.after (.tick now)).FrontHistory := by
  cases hdraw : c.side.drawing now with
  | none => exact h.tick_of_none hdraw
  | some drawn =>
    by_cases answers : (c.record now).AllAnswer
    · exact h.tick_of_all hdraw answers
    · exact h.tick_of_not_all hdraw answers

theorem after (h : c.FrontHistory) (happening : Happening) : (c.after happening).FrontHistory := by
  cases happening with
  | order order nowMs => exact h.order order nowMs
  | responsive place on => exact h.setResponsive place on
  | tick now => exact h.tick now

theorem course (h : c.FrontHistory) (happenings : List Happening) :
    (c.course happenings).FrontHistory :=
  course_keeps (fun h => h.after) h happenings

/-- If all panels answer, the drawn bitmap is on all of them, unless it was overtaken. -/
theorem front_tick (h : c.FrontHistory) {now : ClockReading} {bitmap : Bitmap}
    (hdraw : c.side.drawing now = some bitmap)
    (answers : ∀ place, (c.side.panel place).responsive = true) :
    (∀ place, ((c.side.tick now).2.panel place).front = bitmap) ↔ ¬ Overtaken bitmap c.past := by
  have hfront (place : Fin 3) := (PanelSide.tick_front_of_some hdraw (h.inStep place)).2.2
  by_cases hknown : c.side.known = some bitmap
  · rw [← h.overtaken bitmap hknown]
    simp [hfront, hknown]
  · have hnot : ¬ Overtaken bitmap c.past := fun hover => hknown ((h.known _).mpr hover.stands)
    simp [hfront, hknown, answers, hnot]

end FrontHistory

/-! ## The clock face alone -/

/-- The sign is powered and has no message, so that the panel side shows the clock. -/
structure ShowsClock (c : Chronicle β) (inverted : Bool) : Prop where
  /-- the panels are powered -/
  powered : c.side.hub.sign.powered = true
  /-- there is no message -/
  message : c.side.hub.sign.message = none
  /-- whether lit and dark are exchanged -/
  inversion : c.side.hub.sign.inverted = inverted
  /-- the painter remembers nothing wrong -/
  painter : c.side.painter.Faithful

namespace ShowsClock

variable {inverted : Bool}

theorem start [Bus β] {hub : Hub β} (hsign : hub.sign = .new)
    (panels : Trio (ChannelLink PanelLine)) :
    (Chronicle.start hub panels).ShowsClock false where
  powered := congrArg Sign.powered hsign
  message := congrArg Sign.message hsign
  inversion := congrArg Sign.inverted hsign
  painter := Painter.faithful_new

variable [Bus β]

/-- With no message a tick draws the clock face, inverted if the sign is. -/
theorem drawing (h : c.ShowsClock inverted) (now : ClockReading) :
    c.side.drawing now =
      some (if inverted then now.face.bitmap.complement else now.face.bitmap) := by
  have hview (nowMs : Nat) (tickS : Single) :
      (c.side.hub.sign.tick nowMs tickS).1.view = ⟨inverted, none⟩ := by
    rw [Sign.tick, Sign.dropExpired, h.message, ← h.inversion]
    simp only [Sign.view, h.message, Option.map_none]
  rw [PanelSide.drawing_of_faithful h.painter, if_pos h.powered, hview]
  rfl

theorem tick (h : c.ShowsClock inverted) (now : ClockReading) :
    (c.after (.tick now)).ShowsClock inverted := by
  have hsign := c.side.tick_sign now
  -- Without a message there is nothing to drop and nothing to scroll.
  have hquiet (nowMs : Nat) (tickS : Single) :
      (c.side.hub.sign.tick nowMs tickS).2 = c.side.hub.sign := by
    rw [Sign.tick, Sign.dropExpired, h.message]
    simp only [Sign.scroll, h.message]
  rw [hquiet, ite_self] at hsign
  exact ⟨(congrArg Sign.powered hsign).trans h.powered,
    (congrArg Sign.message hsign).trans h.message,
    (congrArg Sign.inverted hsign).trans h.inversion, PanelSide.tick_faithful h.painter now⟩

theorem invert (h : c.ShowsClock inverted) (on : Bool) (nowMs : Nat) :
    (c.after (.order (.inversion on) nowMs)).ShowsClock on :=
  ⟨h.powered, h.message, rfl, h.painter⟩

theorem setResponsive (h : c.ShowsClock inverted) (place : Fin 3) (on : Bool) :
    (c.after (.responsive place on)).ShowsClock inverted :=
  ⟨h.powered, h.message, h.inversion, h.painter⟩

/-- A tick, then another inversion, and then a panel that falls silent or answers again. -/
theorem round (h : c.ShowsClock inverted) (history : c.FrontHistory) (now : ClockReading)
    (on : Bool) (nowMs : Nat) (place : Fin 3) (answer : Bool) :
    let c' := ((c.after (.tick now)).after (.order (.inversion on) nowMs)).after
      (.responsive place answer)
    c'.ShowsClock on ∧ c'.FrontHistory ∧ c'.past = c.past ++ [c.record now] ∧
      ∀ other, (c'.side.panel other).responsive =
        if other = place then answer else (c.side.panel other).responsive := by
  refine ⟨((h.tick now).invert on nowMs).setResponsive place answer,
    ((history.tick now).order _ nowMs).setResponsive place answer, rfl, fun other => ?_⟩
  rw [← PanelSide.tick_responsive (history.inStep other) now]
  exact PanelSide.setResponsive_responsive place other answer

/-- Two rounds: all panels take the face over, and then only some of them the inverted one. -/
theorem rounds (h : c.ShowsClock false) (history : c.FrontHistory)
    (answers : ∀ place, (c.side.panel place).responsive = true) (now : ClockReading) (nowMs : Nat)
    (on : Bool) :
    let c' := c.course [.tick now, .order (.inversion true) nowMs, .responsive 1 false, .tick now,
      .order (.inversion on) nowMs, .responsive 1 true]
    c'.ShowsClock on ∧ c'.FrontHistory ∧ (∀ place, (c'.side.panel place).responsive = true) ∧
      ∃ whole half : TickRecord, c'.past = c.past ++ [whole] ++ [half] ∧
        whole.drawn = some now.face.bitmap ∧ whole.AllAnswer ∧
        half.drawn = some now.face.bitmap.complement ∧ half.responsive 0 = true ∧
        ¬ half.AllAnswer := by
  -- The two rounds are followed through the invariants alone, never by computing a tick.
  obtain ⟨clock₁, history₁, past₁, answers₁⟩ := h.round history now true nowMs 1 false
  simp only [course, List.foldl_cons, List.foldl_nil]
  generalize ((c.after (.tick now)).after (.order (.inversion true) nowMs)).after
    (.responsive 1 false) = partly at *
  obtain ⟨clock₂, history₂, past₂, answers₂⟩ := clock₁.round history₁ now on nowMs 1 true
  refine ⟨clock₂, history₂, fun place => ?_, c.record now, partly.record now, past₁ ▸ past₂,
    h.drawing now, answers, clock₁.drawing now, ?_, fun all => ?_⟩
  · rw [answers₂, answers₁, answers]
    split <;> rfl
  · change (partly.side.panel 0).responsive = true
    rw [answers₁, answers]
    rfl
  · have silent : (partly.side.panel 1).responsive = true := all 1
    rw [answers₁, if_pos rfl] at silent
    exact Bool.false_ne_true silent

/-- An inverted face that only some of the panels take over stays there, although the sign is not
inverted any more when all panels answer again. -/
theorem stays_inverted (h : c.ShowsClock false) (history : c.FrontHistory)
    (answers : ∀ place, (c.side.panel place).responsive = true) (now : ClockReading) (nowMs : Nat) :
    let c' := c.course [.tick now, .order (.inversion true) nowMs, .responsive 1 false, .tick now,
      .order (.inversion false) nowMs, .responsive 1 true]
    c'.side.drawing now = some now.face.bitmap ∧
      (∀ place, (c'.side.panel place).responsive = true) ∧
      ∃ place, ((c'.after (.tick now)).side.panel place).front ≠ now.face.bitmap := by
  intro c'
  obtain ⟨clock, history', allAnswer, whole, partly, past, taken, all, other, zero, notAll⟩ :=
    h.rounds history answers now nowMs false
  refine ⟨clock.drawing now, allAnswer, not_forall.mp fun shown => ?_⟩
  have overtaken : Overtaken now.face.bitmap c'.past := by
    rw [past]
    refine overtaken_concat.mpr ⟨⟨?_, fun all => absurd all notAll⟩, .inr ⟨?_, ?_, 0, zero⟩⟩
    · exact other ▸ Option.some_ne_none _
    · exact accepted_concat.mpr (.inl ⟨taken, all⟩)
    · exact fun hsame => now.face.bitmap.complement_ne (Option.some.inj (other.symm.trans hsame))
  exact (history'.front_tick (clock.drawing now) allAnswer).mp shown overtaken

end ShowsClock

/-- Panels that have just come up answer. -/
theorem answers_at_start [Bus β] (hub : Hub β) (place : Fin 3) :
    ((Chronicle.start hub ⟨⟨.new 0⟩, ⟨.new 1⟩, ⟨.new 2⟩⟩).side.panel place).responsive = true :=
  match place with
  | 0 => rfl
  | 1 => rfl
  | 2 => rfl

end Chronicle

/-! ## The drawn bitmap is shown -/

/-- If a tick draws a bitmap while all panels answer, the bitmap is on all of them at the end of the
tick exactly if it was not overtaken before. -/
theorem front_eq_iff {β : Type} [Bus β] (hub : Hub β) (p₀ p₁ p₂ : Firmware)
    (happenings : List Happening) (now : ClockReading) (bitmap : Bitmap) :
    let c := (Chronicle.start hub ⟨⟨.ofPanel p₀⟩, ⟨.ofPanel p₁⟩, ⟨.ofPanel p₂⟩⟩).course happenings
    c.side.drawing now = some bitmap → (∀ place, (c.side.panel place).responsive = true) →
      ((∀ place, ((c.after (.tick now)).side.panel place).front = bitmap) ↔
        ¬ Overtaken bitmap c.past) := by
  intro c hdraw answers
  exact ((Chronicle.FrontHistory.start hub p₀ p₁ p₂).course happenings).front_tick hdraw answers

/-- The inverted clock face, which had reached some of the panels and not the others, is on all of
them once they all answer, since it is another one than the face that all of them had accepted. -/
theorem front_eq_inverted_face :
    let now : ClockReading := ⟨1700000000000, 0⟩
    let c := (Chronicle.start (Hub.new .default BusRecord.new)
        ⟨⟨.new 0⟩, ⟨.new 1⟩, ⟨.new 2⟩⟩).course
      [.tick now, .order (.inversion true) 0, .responsive 1 false, .tick now,
        .order (.inversion true) 0, .responsive 1 true]
    ∀ place, ((c.after (.tick now)).side.panel place).front = now.face.bitmap.complement := by
  intro now c
  have fresh : (Chronicle.start (Hub.new .default BusRecord.new)
      ⟨⟨.new 0⟩, ⟨.new 1⟩, ⟨.new 2⟩⟩).ShowsClock false := .start rfl _
  obtain ⟨clock, -, allAnswer, whole, partly, past, taken, -⟩ :=
    fresh.rounds (.start _ _ _ _) (Chronicle.answers_at_start _) now 0 true
  have never : ¬ Accepted now.face.bitmap.complement ([] ++ [whole]) := fun accepted => by
    rcases accepted_concat.mp accepted with ⟨hsame, -⟩ | ⟨before, -⟩
    · exact now.face.bitmap.complement_ne (Option.some.inj (hsame.symm.trans taken))
    · exact not_stands_nil before
  refine (front_eq_iff _ _ _ _ _ now _ (clock.drawing now) allAnswer).mpr fun overtaken => ?_
  have overtaken' : Overtaken now.face.bitmap.complement ([] ++ [whole] ++ [partly]) :=
    past ▸ overtaken
  rcases (overtaken_concat.mp overtaken').2 with earlier | ⟨accepted, -⟩
  · exact never earlier.stands
  · exact never accepted

/-- A panel shows the clock face inverted, although the sign is not inverted and all panels answer,
after the inverted face had reached some of the panels and not the others. -/
theorem front_stays_inverted :
    let now : ClockReading := ⟨1700000000000, 0⟩
    let c := (Chronicle.start (Hub.new .default BusRecord.new)
        ⟨⟨.new 0⟩, ⟨.new 1⟩, ⟨.new 2⟩⟩).course
      [.tick now, .order (.inversion true) 0, .responsive 1 false, .tick now,
        .order (.inversion false) 0, .responsive 1 true]
    c.side.drawing now = some now.face.bitmap ∧
      (∀ place, (c.side.panel place).responsive = true) ∧
      ∃ place, ((c.after (.tick now)).side.panel place).front ≠ now.face.bitmap := by
  intro now c
  exact (Chronicle.ShowsClock.start rfl _).stays_inverted (.start _ _ _ _)
    (Chronicle.answers_at_start _) now 0

end Marquee
