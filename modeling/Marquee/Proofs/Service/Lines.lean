import Marquee.Proofs.Link.Line
import Marquee.Proofs.Service.Sections

/-!
# A tick on lines

With emulated panels on lines in step the outcome of every section of a tick is known: a panel
acknowledges what it is sent exactly if it is responsive, and the lines stay in step.
`tick_relay` says what a tick makes of the relay and of what is known about it, and `tick_front`
says what it makes of the shown bitmaps and of the bitmap that all panels are known to show.
-/

namespace Marquee.PanelSide

variable {β : Type} {s : PanelSide (ChannelLink PanelLine) β}

/-- The line to a panel is a matter of the panels alone. -/
theorem line_congr {s t : PanelSide (ChannelLink PanelLine) β} (h : s.panels = t.panels)
    (place : Fin 3) : s.line place = t.line place := by
  rw [line, line, h]

/-! ## The relay -/

/-- The panel carries out a switch of the relay in any case, and acknowledges it if it is
responsive. -/
theorem switched_line (h : (s.line 0).InStep) (on : Bool) :
    ((s.switched on).line 0).InStep ∧
      (s.switched on).panel 0 = { s.panel 0 with relay := on } ∧
      (s.switched on).relay = if (s.panel 0).responsive then some on else s.relay := by
  obtain ⟨l', hl', hp, hcall⟩ := Link.switchRelay_line h on
  have hlink : s.panels.get relayPlace = ⟨s.line 0⟩ := rfl
  have hline : (s.switched on).line 0 = { l' with journal := [] } := by
    change (Trio.get (s.panels.set 0 _) 0).channel = _
    rw [Trio.get_set_self, hlink, hcall]
    rfl
  refine ⟨?_, ?_, ?_⟩
  · rw [hline]
    exact ⟨hl'.reader, hl'.pending⟩
  · rw [panel, hline]
    exact hp
  · rw [switched, hlink, hcall, panel]
    cases (s.line 0).panel.responsive <;> rfl

/-- A switch goes over no other line than the first. -/
theorem switched_line_of_ne (on : Bool) {place : Fin 3} (h : place ≠ 0) :
    (s.switched on).line place = s.line place := by
  change (Trio.get (s.panels.set 0 _) place).channel = _
  rw [Trio.get_set_of_ne _ _ h.symm]
  rfl

section Relay

variable [Bus β]

/-- The relay is what is wanted, unless it was believed to be so already; the belief is renewed
exactly if the panel is responsive. -/
theorem keepRelay_line (h : (s.line 0).InStep) (powered : Bool) :
    ((s.keepRelay powered).line 0).InStep ∧
      (s.keepRelay powered).panel 0 =
        { s.panel 0 with
          relay := if s.relay = some powered then (s.panel 0).relay else powered } ∧
      (s.keepRelay powered).relay = (if (s.panel 0).responsive then some powered else s.relay) := by
  by_cases known : s.relay = some powered
  · rw [keepRelay_of_known known, if_pos known, known, ite_self]
    exact ⟨h, rfl, rfl⟩
  · have halike := alike_keepRelay known
    rw [if_neg known, halike.relay, panel, line_congr halike.panels]
    exact switched_line h powered

/-- Keeping the relay goes over no other line than the first. -/
theorem keepRelay_line_of_ne (powered : Bool) {place : Fin 3} (h : place ≠ 0) :
    (s.keepRelay powered).line place = s.line place := by
  by_cases known : s.relay = some powered
  · rw [keepRelay_of_known known]
  · rw [line_congr (alike_keepRelay known).panels, switched_line_of_ne powered h]

end Relay

/-! ## The bitmap -/

/-- A panel over which a bitmap was written. -/
def shownOn (bitmap : Bitmap) (p : Firmware) : Firmware :=
  if p.responsive then
    { p with front := bitmap, back := p.front, flipCount := p.flipCount + 1 }
  else { p with back := Firmware.withFirstHalf (Link.firstHalf bitmap) p.back }

/-- A responsive panel accepts a bitmap. -/
theorem written_line {l : PanelLine} (h : l.InStep) (bitmap : Bitmap) :
    (written bitmap (⟨l⟩ : ChannelLink PanelLine)).channel.InStep ∧
      (written bitmap (⟨l⟩ : ChannelLink PanelLine)).channel.panel = shownOn bitmap l.panel ∧
      accepts bitmap (⟨l⟩ : ChannelLink PanelLine) = l.panel.responsive := by
  obtain ⟨l', hl', hp, hcall⟩ := Link.showHalves_line h bitmap
  rw [written, accepts, hcall]
  refine ⟨⟨hl'.reader, hl'.pending⟩, hp, ?_⟩
  cases l.panel.responsive <;> rfl

/-- All panels accept a bitmap exactly if all of them are responsive. -/
theorem allAccept_line (h : ∀ place, (s.line place).InStep) (bitmap : Bitmap) :
    allAccept bitmap s.panels = true ↔ ∀ place, (s.panel place).responsive = true := by
  obtain ⟨-, -, h₀⟩ := written_line (h 0) bitmap
  obtain ⟨-, -, h₁⟩ := written_line (h 1) bitmap
  obtain ⟨-, -, h₂⟩ := written_line (h 2) bitmap
  have haccept : allAccept bitmap s.panels =
      ((s.panel 0).responsive && (s.panel 1).responsive && (s.panel 2).responsive) :=
    congr (congrArg _ (congr (congrArg _ h₀) h₁)) h₂
  rw [haccept, Bool.and_eq_true_iff, Bool.and_eq_true_iff]
  constructor
  · rintro ⟨⟨h₀, h₁⟩, h₂⟩ place
    match place with
    | 0 => exact h₀
    | 1 => exact h₁
    | 2 => exact h₂
  · exact fun hall => ⟨⟨hall 0, hall 1⟩, hall 2⟩

theorem pushed_line (bitmap : Bitmap) (s : PanelSide (ChannelLink PanelLine) β) (place : Fin 3) :
    (s.pushed bitmap).line place = (written bitmap (s.panels.get place)).channel := by
  match place with
  | 0 => rfl
  | 1 => rfl
  | 2 => rfl

/-- A redraw writes to a panel exactly if the bitmap is not known to be shown. -/
theorem redraw_line {place : Fin 3} (h : (s.line place).InStep) (now : ClockReading) :
    ((s.redraw now).line place).InStep ∧
      (s.redraw now).panel place =
        if (s.drawn now).hub.sign.lacks (s.picture now) then
          shownOn (s.picture now) (s.panel place)
        else s.panel place := by
  rw [panel, line_congr (alike_redraw now s).panels]
  split
  · rw [pushed_line]
    obtain ⟨hstep, hpanel, -⟩ := written_line h (s.picture now)
    exact ⟨hstep, hpanel⟩
  · exact ⟨h, rfl⟩

/-- A redraw leaves what is known about the relay. -/
theorem redraw_relay (now : ClockReading) (s : PanelSide (ChannelLink PanelLine) β) :
    (s.redraw now).relay = s.relay ∧ (s.redraw now).activity = s.activity := by
  have h := alike_redraw now s
  rw [h.relay, h.activity]
  split <;> exact ⟨rfl, rfl⟩

@[simp] theorem shownOn_relay (bitmap : Bitmap) (p : Firmware) :
    (shownOn bitmap p).relay = p.relay := by
  rw [shownOn]
  split <;> rfl

@[simp] theorem shownOn_responsive (bitmap : Bitmap) (p : Firmware) :
    (shownOn bitmap p).responsive = p.responsive := by
  rw [shownOn]
  split <;> rfl

/-- A panel shows the bitmap if it answers, and else what it showed. -/
theorem shownOn_front (bitmap : Bitmap) (p : Firmware) :
    (shownOn bitmap p).front = if p.responsive then bitmap else p.front := by
  rw [shownOn]
  split <;> rfl

/-! ## Ticks -/

section Ticks

variable [Bus β]

/-- Following the power state goes over no line. -/
theorem attended_line (s : PanelSide (ChannelLink PanelLine) β) (place : Fin 3) :
    s.attended.line place = (s.keepRelay s.hub.sign.powered).line place :=
  line_congr (alike_followPower _ _).panels place

/-- What a tick makes of the relay. -/
theorem tick_relay (h : (s.line 0).InStep) (now : ClockReading) :
    ((s.tick now).2.line 0).InStep ∧
      ((s.tick now).2.panel 0).relay =
        (if s.relay = some s.hub.sign.powered then (s.panel 0).relay else s.hub.sign.powered) ∧
      (s.tick now).2.relay =
        (if (s.panel 0).responsive then some s.hub.sign.powered else s.relay) := by
  obtain ⟨hstep, hpanel, hrelay⟩ := keepRelay_line h s.hub.sign.powered
  rw [← attended_line] at hstep
  -- Whatever comes after the relay was kept leaves it alone.
  have hattended : s.attended.panel 0 = (s.keepRelay s.hub.sign.powered).panel 0 := by
    rw [panel, attended_line, panel]
  have hknown : s.attended.relay = (s.keepRelay s.hub.sign.powered).relay :=
    (alike_followPower _ _).relay
  rw [tick_snd]
  split
  · obtain ⟨hstep', hpanel'⟩ := redraw_line hstep now
    rw [hpanel', (redraw_relay now _).1, hknown, hrelay]
    refine ⟨hstep', ?_, rfl⟩
    split <;> simp [hattended, hpanel]
  · rw [hattended, hpanel, hknown, hrelay]
    exact ⟨hstep, rfl, rfl⟩

/-- Up to the redraw a tick sends nothing but relay commands. -/
theorem attended_front {place : Fin 3} (h : (s.line place).InStep) :
    (s.attended.line place).InStep ∧
      (s.attended.panel place).responsive = (s.panel place).responsive ∧
      (s.attended.panel place).front = (s.panel place).front := by
  rw [panel, attended_line]
  by_cases hplace : place = 0
  · subst hplace
    obtain ⟨hstep, hpanel, -⟩ := keepRelay_line h s.hub.sign.powered
    rw [panel] at hpanel
    rw [hpanel]
    exact ⟨hstep, rfl, rfl⟩
  · rw [keepRelay_line_of_ne _ hplace]
    exact ⟨h, rfl, rfl⟩

/-- A tick that draws nothing leaves the shown bitmaps alone. -/
theorem tick_front_of_none {now : ClockReading} (hdraw : s.drawing now = none) {place : Fin 3}
    (h : (s.line place).InStep) :
    ((s.tick now).2.line place).InStep ∧
      ((s.tick now).2.panel place).responsive = (s.panel place).responsive ∧
      ((s.tick now).2.panel place).front = (s.panel place).front := by
  rw [(tick_of_drawing_none hdraw).1]
  exact attended_front h

/-- A tick that draws a bitmap brings it to every responsive panel, unless all panels are known to
show it. -/
theorem tick_front_of_some {now : ClockReading} {bitmap : Bitmap}
    (hdraw : s.drawing now = some bitmap) {place : Fin 3} (h : (s.line place).InStep) :
    ((s.tick now).2.line place).InStep ∧
      ((s.tick now).2.panel place).responsive = (s.panel place).responsive ∧
      ((s.tick now).2.panel place).front =
        if s.known ≠ some bitmap ∧ (s.panel place).responsive then bitmap
        else (s.panel place).front := by
  obtain ⟨hstep, hresponsive, hfront⟩ := attended_front h
  rw [panel, line_congr (tick_of_drawing_some hdraw).panels]
  by_cases hknown : s.known = some bitmap
  · rw [if_pos hknown, if_neg fun lacking => lacking.1 hknown]
    exact ⟨hstep, hresponsive, hfront⟩
  · obtain ⟨hstep', hpanel, -⟩ := written_line hstep bitmap
    rw [if_neg hknown, pushed_line]
    refine ⟨hstep', ?_, ?_⟩
    · exact (congrArg Firmware.responsive hpanel).trans ((shownOn_responsive _ _).trans hresponsive)
    · refine (congrArg Firmware.front hpanel).trans ?_
      rw [shownOn_front]
      simp only [hknown, ne_eq, not_false_eq_true, true_and]
      rw [← hresponsive, ← hfront]
      rfl

/-- A tick does not change whether a panel answers. -/
theorem tick_responsive {place : Fin 3} (h : (s.line place).InStep) (now : ClockReading) :
    ((s.tick now).2.panel place).responsive = (s.panel place).responsive := by
  cases hdraw : s.drawing now with
  | none => exact (tick_front_of_none hdraw h).2.1
  | some bitmap => exact (tick_front_of_some hdraw h).2.1

/-- What all panels are known to show after a tick that draws nothing. -/
theorem tick_known_of_none {now : ClockReading} (hdraw : s.drawing now = none) :
    (s.tick now).2.known = none := by
  obtain ⟨htick, hidle⟩ := tick_of_drawing_none hdraw
  rw [htick, known, hidle]
  rfl

/-- What all panels are known to show after a tick that draws a bitmap. -/
theorem tick_known_of_some {now : ClockReading} {bitmap : Bitmap}
    (hdraw : s.drawing now = some bitmap) (h : ∀ place, (s.line place).InStep) :
    (s.tick now).2.known =
      if ∀ place, (s.panel place).responsive = true then some bitmap else s.known := by
  obtain ⟨hon, -⟩ := powered_of_drawing hdraw
  have halike := tick_of_drawing_some hdraw
  have hactive : s.attended.activity = .active := by rw [attended_activity, if_pos hon]
  have hattended : (∀ place, (s.attended.panel place).responsive = true) ↔
      ∀ place, (s.panel place).responsive = true :=
    forall_congr' fun place => by rw [(attended_front (h place)).2.1]
  have hall := allAccept_line (s := s.attended.drawn now)
    (fun place => (attended_front (h place)).1) bitmap
  have hall : allAccept bitmap (s.attended.drawn now).panels = true ↔
      ∀ place, (s.panel place).responsive = true := hall.trans hattended
  rw [known, halike.activity, halike.sign]
  -- A bitmap that is not written because it is the known one stays the known one.
  by_cases hknown : s.known = some bitmap
  · rw [if_pos hknown, hknown, ite_self, ← hknown, ← drawn_confirmed now hon]
    exact if_pos hactive
  · rw [if_neg hknown]
    refine (if_pos hactive).trans ?_
    rw [pushed]
    by_cases hr : ∀ place, (s.panel place).responsive = true
    · simp only [hall.mpr hr, if_true, if_pos hr]
      rfl
    · simp only [mt hall.mp hr, if_neg hr]
      exact drawn_confirmed now hon

end Ticks

/-! ## Silence -/

/-- One panel begins or ceases to answer, and the others go on as before. -/
theorem setResponsive_responsive (place other : Fin 3) (on : Bool) :
    ((s.setResponsive place on).panel other).responsive =
      if other = place then on else (s.panel other).responsive := by
  rw [panel, line, setResponsive]
  split
  · rename_i h
    rw [h, Trio.get_set_self]
    rfl
  · rename_i h
    rw [Trio.get_set_of_ne _ _ (Ne.symm h)]
    rfl

/-! ## The end -/

/-- The end switches the relay off, unless it was believed to be off already. -/
theorem stop_line (h : (s.line 0).InStep) :
    (s.stop.panel 0).relay = if s.relay = some false then (s.panel 0).relay else false := by
  rw [panel, line_congr (alike_stop s).panels]
  split
  · rfl
  · obtain ⟨-, hpanel, -⟩ := switched_line h false
    exact congrArg Firmware.relay hpanel

/-- Once the end was asked for there are no more ticks. -/
theorem runTicks_of_ended [Bus β] (h : s.hub.running = false) (moments : List Moment) :
    runTicks moments s = s := by
  cases moments with
  | nil => rfl
  | cons moment rest => rw [runTicks, h, if_neg Bool.false_ne_true]

end Marquee.PanelSide
