import Marquee.History
import Marquee.Proofs.Service.Watched
import Marquee.Service.Diary

/-!
# The confirmed bitmap and the ticks behind it

A panel side keeps one bitmap in mind as the one that all its panels have accepted, and writes a
drawn bitmap only if it is another one. The invariant `Diary.Kept` says what this bitmap has to do
with the ticks so far, whatever the panels made of their calls: it is the one that all panels
accepted last since they woke up (`LastAccepted`). From there on what the next tick writes and what
it leaves behind in the sign is one equation each (`confirmed_exact`).
-/

namespace Marquee

/-- A tick wrote this bitmap and all panels accepted it. Since then the panels have not woken up,
and no tick has written a bitmap that all of them accepted. -/
def LastAccepted (bitmap : Bitmap) : List TickNote → Prop :=
  Stands (TickNote.Accepted bitmap) (fun note => ¬ note.Woke ∧ ∀ other, ¬ note.Accepted other)

/-- Whether a bitmap is the one accepted last is decided by the last tick and by what held before.
-/
theorem lastAccepted_concat {bitmap : Bitmap} {past : List TickNote} {note : TickNote} :
    LastAccepted bitmap (past ++ [note]) ↔
      note.Accepted bitmap ∨
        LastAccepted bitmap past ∧ ¬ note.Woke ∧ ∀ other, ¬ note.Accepted other :=
  stands_concat

namespace PanelSide

variable {ℓ β : Type} [Link ℓ]

/-! ## The account of a tick -/

theorem images_relayNotes (powered : Bool) (s : PanelSide ℓ β) :
    (s.relayNotes powered).filterMap CallNote.image? = [] := by
  rw [relayNotes]
  split <;> rfl

/-- Keeping the relay writes no image. -/
theorem image_not_mem_relayNotes (powered : Bool) (s : PanelSide ℓ β) (place : Fin 3)
    (bitmap : Bitmap) (succeeded : Bool) :
    ⟨place, .image bitmap, succeeded⟩ ∉ s.relayNotes powered := by
  rw [relayNotes]
  split <;> simp

/-- A tick that called nobody but for the relay wrote no bitmap. -/
theorem images_of_relayNotes {note : TickNote} {powered : Bool} {s : PanelSide ℓ β}
    (h : note.calls = s.relayNotes powered) :
    note.images = [] ∧ ∀ bitmap, ¬ note.Accepted bitmap := by
  constructor
  · rw [TickNote.images, h, images_relayNotes]
  · intro bitmap haccepted
    have hmem := haccepted 0
    rw [h] at hmem
    exact image_not_mem_relayNotes _ _ _ _ _ hmem

theorem images_imageNotes (bitmap : Bitmap) (panels : Trio ℓ) :
    (imageNotes bitmap panels).filterMap CallNote.image? =
      [(0, bitmap), (1, bitmap), (2, bitmap)] := rfl

/-- An image that was accepted is the one that was written, and its panel has accepted it. -/
theorem mem_imageNotes {bitmap other : Bitmap} {panels : Trio ℓ} {place : Fin 3} :
    ⟨place, .image other, true⟩ ∈ imageNotes bitmap panels ↔
      other = bitmap ∧ accepts bitmap (panels.get place) = true := by
  rw [imageNotes, List.mem_map]
  constructor
  · rintro ⟨place', -, heq⟩
    simp only [CallNote.mk.injEq, PanelCall.image.injEq] at heq
    obtain ⟨rfl, rfl, haccepts⟩ := heq
    exact ⟨rfl, haccepts⟩
  · rintro ⟨rfl, haccepts⟩
    exact ⟨place, List.mem_finRange place, by rw [haccepts]⟩

/-- All panels accept a bitmap if each of them does. -/
theorem allAccept_iff {bitmap : Bitmap} {panels : Trio ℓ} :
    allAccept bitmap panels = true ↔ ∀ place, accepts bitmap (panels.get place) = true := by
  rw [@Trio.forall_get _ fun link => accepts bitmap link = true]
  simp only [allAccept, Bool.and_eq_true_iff, and_assoc]

/-- The account shows that all panels accepted a bitmap exactly if it is the one that was written,
and they did. -/
theorem forall_mem_imageNotes {bitmap other : Bitmap} {panels : Trio ℓ} :
    (∀ place, ⟨place, .image other, true⟩ ∈ imageNotes bitmap panels) ↔
      other = bitmap ∧ allAccept bitmap panels = true := by
  simp only [mem_imageNotes, allAccept_iff]
  constructor
  · intro h
    exact ⟨(h 0).1, fun place => (h place).2⟩
  · rintro ⟨rfl, h⟩ place
    exact ⟨rfl, h place⟩

/-! ## What a tick does -/

section Ticks

variable [Bus β]

/-- The calls put down for a tick are those in its account. -/
theorem note_calls (now : ClockReading) (s : PanelSide ℓ β) :
    (s.note now).calls = s.tickNotes now := by
  rw [note, Watched.tick_eq, List.nil_append]

/-- A tick ends active exactly if it found the panels powered. -/
theorem note_active_iff {now : ClockReading} {s : PanelSide ℓ β} :
    (s.note now).after = .active ↔ s.hub.sign.powered = true := by
  change (s.tick now).2.activity = _ ↔ _
  rw [(s.tick_rest now).2.2]
  cases s.hub.sign.powered <;> simp

theorem note_idle_iff {now : ClockReading} {s : PanelSide ℓ β} :
    (s.note now).after = .idle ↔ s.hub.sign.powered = false := by
  rw [← Bool.not_eq_true, ← @note_active_iff _ _ _ _ now]
  cases (s.note now).after <;> simp

/-- What the panels are known to show in a powered tick is the confirmed bitmap, and nothing if the
tick wakes them up. -/
theorem known_eq_some_iff {now : ClockReading} {s : PanelSide ℓ β} {bitmap : Bitmap}
    (h : s.hub.sign.powered = true) :
    s.known = some bitmap ↔ ¬ (s.note now).Woke ∧ s.hub.sign.confirmed = some bitmap := by
  rw [TickNote.Woke, note_active_iff.mpr h, known]
  change _ ↔ ¬ (s.activity = .idle ∧ _) ∧ _
  cases s.activity <;> simp

/-- A bitmap is drawn to be written, unless the panels are known to show it. -/
theorem redrawNotes_attended (now : ClockReading) {s : PanelSide ℓ β}
    (h : s.hub.sign.powered = true) :
    s.attended.redrawNotes now =
      if s.known = some (s.picture now) then []
      else imageNotes (s.picture now) s.attended.panels := by
  rw [redrawNotes, attended_picture, Sign.lacks, drawn_confirmed now h]
  by_cases hknown : s.known = some (s.picture now)
  · rw [hknown, bne_self_eq_false, if_neg Bool.false_ne_true, if_pos rfl]
  · rw [bne_iff_ne.mpr hknown, if_pos rfl, if_neg hknown]

/-- A tick that is not powered draws nothing, writes nothing and leaves the sign as it is. -/
theorem note_of_off (now : ClockReading) {s : PanelSide ℓ β} (h : s.hub.sign.powered = false) :
    (s.note now).drawn = none ∧ (s.note now).images = [] ∧
      (∀ bitmap, ¬ (s.note now).Accepted bitmap) ∧ (s.note now).sign = s.hub.sign := by
  have hcalls : (s.note now).calls = s.relayNotes false := by
    rw [note_calls, tickNotes, h, if_neg Bool.false_ne_true, List.append_nil]
  have hdraw : s.drawing now = none := by rw [drawing_eq, h, if_neg Bool.false_ne_true]
  obtain ⟨himages, haccepted⟩ := images_of_relayNotes hcalls
  refine ⟨hdraw, himages, haccepted, ?_⟩
  change (s.tick now).2.hub.sign = s.hub.sign
  rw [(tick_of_drawing_none hdraw).1, attended_sign, h]
  rfl

/-- A tick that is powered draws a bitmap, and writes it unless the panels are known to show it. -/
theorem note_of_on (now : ClockReading) {s : PanelSide ℓ β} (h : s.hub.sign.powered = true) :
    (s.note now).drawn = some (s.picture now) ∧
      (s.note now).calls = s.relayNotes true ++
        if s.known = some (s.picture now) then []
        else imageNotes (s.picture now) s.attended.panels := by
  refine ⟨(s.drawing_eq now).trans (if_pos h), ?_⟩
  rw [note_calls, tickNotes, h, if_pos rfl, redrawNotes_attended now h]

/-- A bitmap that the panels are known to show is not written. -/
theorem note_of_known (now : ClockReading) {s : PanelSide ℓ β} (h : s.hub.sign.powered = true)
    (hknown : s.known = some (s.picture now)) :
    (s.note now).images = [] ∧ (∀ bitmap, ¬ (s.note now).Accepted bitmap) ∧
      (s.note now).sign.confirmed = s.known := by
  obtain ⟨hdrawn, hcalls⟩ := s.note_of_on now h
  rw [if_pos hknown, List.append_nil] at hcalls
  obtain ⟨himages, haccepted⟩ := images_of_relayNotes hcalls
  have hsign := (tick_of_drawing_some hdrawn).sign
  rw [if_pos hknown] at hsign
  exact ⟨himages, haccepted, (congrArg Sign.confirmed hsign).trans (drawn_confirmed now h)⟩

/-- A bitmap that the panels are not known to show is written to all of them. -/
theorem note_of_lacking (now : ClockReading) {s : PanelSide ℓ β} (h : s.hub.sign.powered = true)
    (hlacks : s.known ≠ some (s.picture now)) :
    (s.note now).images = [(0, s.picture now), (1, s.picture now), (2, s.picture now)] ∧
      (∀ bitmap, (s.note now).Accepted bitmap ↔
        bitmap = s.picture now ∧ allAccept (s.picture now) s.attended.panels = true) ∧
      (s.note now).sign.confirmed =
        if allAccept (s.picture now) s.attended.panels then some (s.picture now) else s.known := by
  obtain ⟨hdrawn, hcalls⟩ := s.note_of_on now h
  rw [if_neg hlacks] at hcalls
  refine ⟨?_, fun bitmap => ?_, ?_⟩
  · rw [TickNote.images, hcalls, List.filterMap_append, images_relayNotes, images_imageNotes,
      List.nil_append]
  · rw [← forall_mem_imageNotes]
    simp only [TickNote.Accepted, hcalls, List.mem_append, image_not_mem_relayNotes, false_or]
  · have hsign := (tick_of_drawing_some hdrawn).sign
    have hconfirmed : (s.attended.drawn now).hub.sign.confirmed = s.known := drawn_confirmed now h
    rw [if_neg hlacks] at hsign
    refine (congrArg Sign.confirmed hsign).trans ?_
    rw [pushed, ← hconfirmed]
    exact apply_ite Sign.confirmed _ _ _

/-- A tick that is powered looks at the sign once the message that is gone has been dropped, draws
what it sees, and has the sign scroll on by one step. -/
theorem note_of_look (now : ClockReading) {s : PanelSide ℓ β} (h : s.hub.sign.powered = true)
    (hpainter : s.painter.Faithful) :
    let seen := (s.hub.sign.dropExpired now.sinceEpochMs).2
    (s.note now).drawn = some (seen.view.bitmap now.face) ∧
      (s.note now).sign.message = seen.message ∧
      (s.note now).sign.scrolledOut = (seen.scroll s.hub.timings.activePeriodS).scrolledOut := by
  intro seen
  have hdrawn : s.drawing now = some (seen.view.bitmap now.face) :=
    (drawing_of_faithful hpainter now).trans (if_pos h)
  have hsign : (s.note now).sign.forgetConfirmed =
      (seen.scroll s.hub.timings.activePeriodS).forgetConfirmed :=
    (s.tick_sign now).trans (if_pos h)
  have hmessage := congrArg Sign.message hsign
  have hscrolled := congrArg Sign.scrolledOut hsign
  rw [Sign.scroll_rest] at hmessage
  exact ⟨hdrawn, hmessage, hscrolled⟩

end Ticks

end PanelSide

namespace Diary

variable {ℓ β : Type} {d : Diary ℓ β} {timings : Timings}

/-! ## The diary of a run -/

/-- What holds after all occasions of a run. -/
structure Kept (timings : Timings) (d : Diary ℓ β) : Prop where
  /-- the timings are those of the start -/
  timings : d.side.hub.timings = timings
  /-- the painter remembers nothing wrong -/
  painter : d.side.painter.Faithful
  /-- the last tick left the activity as it is, which was idle at the start -/
  activity : d.side.activity = (d.past.getLast?.map TickNote.after).getD .idle
  /-- the confirmed bitmap is the one that was accepted last -/
  confirmed : ∀ bitmap, d.side.hub.sign.confirmed = some bitmap ↔ LastAccepted bitmap d.past

namespace Kept

/-- At the start no bitmap was accepted. -/
theorem start (timings : Timings) (bus : β) (panels : Trio ℓ) :
    (Diary.start timings bus panels).Kept timings where
  timings := rfl
  painter := Painter.faithful_new
  activity := rfl
  confirmed bitmap := iff_of_false (Option.some_ne_none bitmap).symm not_stands_nil

/-- What the panels and the bus do in the meantime concerns neither the sign nor the ticks so far.
-/
theorem meanwhile (h : d.Kept timings) (panels : Trio ℓ → Trio ℓ) (bus : β → β) :
    Kept timings { d with side := d.side.meanwhile panels bus } :=
  ⟨h.timings, h.painter, h.activity, h.confirmed⟩

/-- No order touches the confirmed bitmap. -/
theorem order (h : d.Kept timings) (order : Order) (nowMs : Nat) :
    Kept timings
      { d with side := d.side.mapHub fun hub => (hub.applyOrder order nowMs).2 } where
  timings := h.timings
  painter := h.painter
  activity := h.activity
  confirmed bitmap := by
    have hconfirmed := d.side.hub.sign.obey_confirmed d.side.hub.timings messageSpan order nowMs
    rw [← h.confirmed bitmap, ← hconfirmed]
    rfl

variable [Link ℓ] [Bus β]

/-- The confirmed bitmap after a tick is the one that was accepted last. -/
theorem confirmed_tick (h : d.Kept timings) (now : ClockReading) (bitmap : Bitmap) :
    (d.side.note now).sign.confirmed = some bitmap ↔
      LastAccepted bitmap (d.past ++ [d.side.note now]) := by
  rw [lastAccepted_concat, ← h.confirmed bitmap]
  cases hpower : d.side.hub.sign.powered with
  | false =>
    -- An idle tick accepts nothing, and it wakes nobody up.
    obtain ⟨-, -, hnone, hsign⟩ := d.side.note_of_off now hpower
    have hasleep : ¬ (d.side.note now).Woke := fun hwoke => by
      rw [PanelSide.note_active_iff.mp hwoke.2] at hpower
      exact Bool.noConfusion hpower
    simp [hsign, hnone, hasleep]
  | true =>
    -- What is known has already been forgotten if this very tick wakes the panels up.
    have hknown := @PanelSide.known_eq_some_iff _ _ _ _ now _ bitmap hpower
    by_cases hsame : d.side.known = some (d.side.picture now)
    · obtain ⟨-, hnone, hconfirmed⟩ := d.side.note_of_known now hpower hsame
      simp [hconfirmed, hnone, hknown, and_comm]
    · obtain ⟨-, haccepted, hconfirmed⟩ := d.side.note_of_lacking now hpower hsame
      rw [hconfirmed, haccepted]
      by_cases hall : PanelSide.allAccept (d.side.picture now) d.side.attended.panels = true
      · simp [hall, haccepted, eq_comm]
      · simp [hall, haccepted, hknown, and_comm]

theorem tick (h : d.Kept timings) (now : ClockReading) :
    Kept timings ⟨(d.side.tick now).2, d.past ++ [d.side.note now]⟩ where
  timings := (d.side.tick_rest now).1.trans h.timings
  painter := PanelSide.tick_faithful h.painter now
  activity := by
    rw [List.getLast?_concat]
    rfl
  confirmed := h.confirmed_tick now

theorem after (h : d.Kept timings) (occasion : Occasion ℓ β) : (d.after occasion).Kept timings := by
  obtain ⟨panels, bus, cue⟩ := occasion
  cases cue with
  | order order nowMs => exact (h.meanwhile panels bus).order order nowMs
  | tick now => exact (h.meanwhile panels bus).tick now

/-- The invariant holds after any occasions, by induction on them. -/
theorem course (h : d.Kept timings) (occasions : List (Occasion ℓ β)) :
    (d.course occasions).Kept timings := by
  induction occasions generalizing d with
  | nil => exact h
  | cons occasion rest ih => exact ih (h.after occasion)

end Kept

end Diary

/-! ## What is written, and what is kept in mind -/

/-- Whatever the orders, the times and the answers of the panels: the confirmed bitmap is the one
that all panels accepted last since they woke up. The next tick, whose calls are those noted, each
with the answer of its link, writes a bitmap exactly if it is active and draws another one than
that, counting a waking up of its own, and then once to each panel in order. So it does if it is
active and the one before was idle. While idle it leaves the sign as it is, and while active it
draws what it sees in the sign and then has it scroll on by one step. -/
theorem confirmed_exact {ℓ β : Type} [Link ℓ] [Bus β] (timings : Timings) (bus : β)
    (panels : Trio ℓ) (occasions : List (Occasion ℓ β)) :
    let d := (Diary.start timings bus panels).course occasions
    (∀ bitmap, d.side.hub.sign.confirmed = some bitmap ↔ LastAccepted bitmap d.past) ∧
    ∀ (panels : Trio ℓ → Trio ℓ) (bus : β → β) (now : ClockReading),
      let s := d.side.meanwhile panels bus
      let note := s.note now
      let seen := (s.hub.sign.dropExpired now.sinceEpochMs).2
      (⟨s, []⟩ : Watched ℓ β).tick now = ((s.tick now).1, ⟨(s.tick now).2, note.calls⟩) ∧
      CallsMade s.panels note.calls (s.tick now).2.panels ∧
      (note.after = .idle → note.drawn = none ∧ note.images = [] ∧ note.sign = s.hub.sign) ∧
      (note.after = .active → ∃ bitmap, note.drawn = some bitmap ∧
        bitmap = seen.view.bitmap now.face ∧
        (note.Woke ∨ ¬ LastAccepted bitmap d.past →
          note.images = [(0, bitmap), (1, bitmap), (2, bitmap)]) ∧
        (¬ note.Woke ∧ LastAccepted bitmap d.past → note.images = []) ∧
        (∀ last, d.past.getLast? = some last → last.after = .idle →
          note.images = [(0, bitmap), (1, bitmap), (2, bitmap)]) ∧
        note.sign.message = seen.message ∧
        note.sign.scrolledOut = (seen.scroll timings.activePeriodS).scrolledOut) := by
  intro d
  have hkept : d.Kept timings := (Diary.Kept.start timings bus panels).course occasions
  refine ⟨hkept.confirmed, fun panels bus now => ?_⟩
  intro s note seen
  have hs : Diary.Kept timings { d with side := s } := hkept.meanwhile panels bus
  have hnoted : note.calls = s.tickNotes now := s.note_calls now
  refine ⟨by rw [Watched.tick_eq, List.nil_append, hnoted], hnoted ▸ s.callsMade_tick now,
    fun hidle => ?_, fun hactive => ?_⟩
  · obtain ⟨hdrawn, himages, -, hsign⟩ := s.note_of_off now (PanelSide.note_idle_iff.mp hidle)
    exact ⟨hdrawn, himages, hsign⟩
  · have hpower : s.hub.sign.powered = true := PanelSide.note_active_iff.mp hactive
    obtain ⟨hdrawn, -⟩ := s.note_of_on now hpower
    obtain ⟨hlook, hmessage, hscrolled⟩ := s.note_of_look now hpower hs.painter
    have hpicture : s.picture now = seen.view.bitmap now.face :=
      Option.some.inj (hdrawn.symm.trans hlook)
    have hknown : s.known = some (s.picture now) ↔
        ¬ note.Woke ∧ LastAccepted (s.picture now) d.past :=
      (PanelSide.known_eq_some_iff hpower).trans (and_congr_right' (hs.confirmed _))
    have hwrites (h : note.Woke ∨ ¬ LastAccepted (s.picture now) d.past) :
        note.images = [(0, s.picture now), (1, s.picture now), (2, s.picture now)] := by
      refine (s.note_of_lacking now hpower fun hsame => ?_).1
      exact h.elim (hknown.mp hsame).1 fun hother => hother (hknown.mp hsame).2
    refine ⟨s.picture now, hdrawn, hpicture, hwrites, ?_, ?_, hmessage, ?_⟩
    · exact fun h => (s.note_of_known now hpower (hknown.mpr h)).1
    · intro last hlast hidle
      have hbefore : s.activity = .idle := by
        rw [hs.activity, hlast, ← hidle]
        rfl
      exact hwrites (.inl ⟨hbefore, hactive⟩)
    · rw [hscrolled, hs.timings]

end Marquee
