import Marquee.Proofs.Sign.Painter
import Marquee.Service.Course

/-!
# What the sections of a tick do

A tick keeps the relay, follows the power state and, while active, redraws. On the way it makes
remarks and publishes, which no section ever looks at again: two panel sides are `Alike` if they
differ in nothing else. Up to that, each section is one equation about the sign, the panels and
what is known about them.
-/

namespace Marquee

/-! ## The sign -/

namespace Sign

/-- What all panels are known to show makes no difference to a tick of the sign. -/
theorem tick_forgetConfirmed (nowMs : Nat) (tickS : Single) (s : Sign) :
    s.forgetConfirmed.tick nowMs tickS =
      ((s.tick nowMs tickS).1, (s.tick nowMs tickS).2.forgetConfirmed) := by
  obtain ⟨powered, inverted, message, scrolledOut, confirmed⟩ := s
  cases message with
  | none => rfl
  | some held =>
    simp only [tick, dropExpired, forgetConfirmed, scroll]
    split
    · rfl
    · dsimp only
      split <;> rfl

/-- Two signs are equal up to the confirmed bitmap. -/
theorem forgetConfirmed_eq_iff {s t : Sign} :
    s.forgetConfirmed = t.forgetConfirmed ↔
      s.powered = t.powered ∧ s.inverted = t.inverted ∧ s.message = t.message ∧
        s.scrolledOut = t.scrolledOut := by
  simp [forgetConfirmed]

/-- Dropping a message that is gone touches only the message and its scrolling. -/
theorem dropExpired_rest (nowMs : Nat) (s : Sign) :
    (s.dropExpired nowMs).2 =
      { s with
        message := (s.dropExpired nowMs).2.message
        scrolledOut := (s.dropExpired nowMs).2.scrolledOut } := by
  rw [dropExpired]
  split
  · rfl
  · split <;> rfl

/-- Scrolling touches only how far the message has scrolled. -/
theorem scroll_rest (tickS : Single) (s : Sign) :
    s.scroll tickS = { s with scrolledOut := (s.scroll tickS).scrolledOut } := by
  rw [scroll]
  split
  · rfl
  · split <;> rfl

/-- A tick changes nothing in the sign but the message and its scrolling. -/
theorem tick_rest (nowMs : Nat) (tickS : Single) (s : Sign) :
    (s.tick nowMs tickS).2 =
      { s with
        message := (s.tick nowMs tickS).2.message
        scrolledOut := (s.tick nowMs tickS).2.scrolledOut } := by
  have hdrop := s.dropExpired_rest nowMs
  have hscroll := (s.dropExpired nowMs).2.scroll_rest tickS
  change (s.dropExpired nowMs).2.scroll tickS =
    { s with
      message := ((s.dropExpired nowMs).2.scroll tickS).message
      scrolledOut := ((s.dropExpired nowMs).2.scroll tickS).scrolledOut }
  rw [hscroll]
  generalize ((s.dropExpired nowMs).2.scroll tickS).scrolledOut = scrolledOut
  rw [hdrop]

/-- Orders change nothing about what all panels are known to show. -/
theorem obey_confirmed (c : Timings) (measure : String → UInt32) (order : Order) (nowMs : Nat)
    (s : Sign) : (s.obey c measure order nowMs).2.confirmed = s.confirmed := by
  cases order with
  | power on => rfl
  | inversion on => rfl
  | message text => rfl

end Sign

namespace PanelSide

variable {ℓ β : Type}

/-- The panel sides differ at most in what was said and published. -/
structure Alike (s t : PanelSide ℓ β) : Prop where
  /-- the same sign -/
  sign : s.hub.sign = t.hub.sign
  /-- the same timings -/
  timings : s.hub.timings = t.hub.timings
  /-- the same wish to keep running -/
  running : s.hub.running = t.hub.running
  /-- the same panels -/
  panels : s.panels = t.panels
  /-- the same painter -/
  painter : s.painter = t.painter
  /-- both active or both idle -/
  activity : s.activity = t.activity
  /-- the same relay state is known -/
  relay : s.relay = t.relay

namespace Alike

theorem refl (s : PanelSide ℓ β) : Alike s s := ⟨rfl, rfl, rfl, rfl, rfl, rfl, rfl⟩

theorem trans {s t u : PanelSide ℓ β} (h : Alike s t) (k : Alike t u) : Alike s u :=
  ⟨h.sign.trans k.sign, h.timings.trans k.timings, h.running.trans k.running,
    h.panels.trans k.panels, h.painter.trans k.painter, h.activity.trans k.activity,
    h.relay.trans k.relay⟩

end Alike

theorem alike_say (level : Level) (text : String) (s : PanelSide ℓ β) :
    Alike (s.say level text) s := ⟨rfl, rfl, rfl, rfl, rfl, rfl, rfl⟩

/-- A publication changes the bus and the journal at most. -/
theorem alike_publishRelay [Bus β] (on : Bool) (s : PanelSide ℓ β) :
    Alike (s.publishRelay on) s := by
  rw [publishRelay, mapHub, Hub.request]
  rcases Bus.publish Topic.power (switchPayload on) true s.hub.bus with ⟨_ | _, _⟩ <;>
    exact ⟨rfl, rfl, rfl, rfl, rfl, rfl, rfl⟩

/-! ## The power state -/

/-- The activity goes with the power state, and waking up forgets what the panels showed. -/
theorem alike_followPower (powered : Bool) (s : PanelSide ℓ β) :
    Alike (s.followPower powered)
      { s with
        activity := if powered then .active else .idle
        hub := { s.hub with
          sign :=
            if powered && s.activity == .idle then s.hub.sign.forgetConfirmed
            else s.hub.sign } } := by
  rw [followPower]
  cases powered <;> cases h : s.activity <;> exact ⟨rfl, rfl, rfl, rfl, rfl, rfl, rfl⟩

/-- Following the power state asks nothing of the bus. -/
theorem followPower_bus (powered : Bool) (s : PanelSide ℓ β) :
    (s.followPower powered).hub.bus = s.hub.bus := by
  rw [followPower]
  cases powered <;> cases s.activity <;> rfl

/-! ## Drawing -/

/-- The bitmap that a redraw draws. -/
def picture (now : ClockReading) (s : PanelSide ℓ β) : Bitmap :=
  (s.painter.draw (s.hub.sign.tick now.sinceEpochMs s.hub.timings.activePeriodS).1.view now.face).1

/-- A panel side that has looked at its sign and drawn it. -/
def drawn (now : ClockReading) (s : PanelSide ℓ β) : PanelSide ℓ β :=
  let tick := s.hub.sign.tick now.sinceEpochMs s.hub.timings.activePeriodS
  { s with
    hub := { s.hub with sign := tick.2 }
    painter := (s.painter.draw tick.1.view now.face).2 }

/-- Looking and drawing come to the picture of the sign, and remarks aside to nothing else. -/
theorem alike_draw (now : ClockReading) (s : PanelSide ℓ β) :
    ((s.look now).2.draw (s.look now).1 now).1 = s.picture now ∧
      Alike ((s.look now).2.draw (s.look now).1 now).2 (s.drawn now) := by
  rw [look, picture, drawn]
  dsimp only
  split <;> exact ⟨rfl, rfl, rfl, rfl, rfl, rfl, rfl, rfl⟩

/-- A look asks nothing of the bus and leaves what is known about the relay. -/
theorem look_bus (now : ClockReading) (s : PanelSide ℓ β) :
    (s.look now).2.hub.bus = s.hub.bus ∧ (s.look now).2.relay = s.relay := by
  rw [look]
  dsimp only
  split <;> exact ⟨rfl, rfl⟩

section Panels

variable [Link ℓ]

/-! ## Calls -/

/-- A panel side whose panel at a place was called. -/
def called {α : Type} (place : Fin 3) (operation : Attempt ℓ LinkError α) (s : PanelSide ℓ β) :
    PanelSide ℓ β :=
  { s with
    panels := s.panels.set place (Link.takeRemarks (operation (s.panels.get place)).2).2 }

/-- A call touches the panel at its place and the journal. -/
theorem alike_call {α : Type} (place : Fin 3) (operation : Attempt ℓ LinkError α)
    (s : PanelSide ℓ β) : Alike (s.call place operation).2 (s.called place operation) :=
  ⟨rfl, rfl, rfl, rfl, rfl, rfl, rfl⟩

/-- The answer to a call is the answer of the link at that place. -/
theorem call_fst {α : Type} (place : Fin 3) (operation : Attempt ℓ LinkError α)
    (s : PanelSide ℓ β) : (s.call place operation).1 = (operation (s.panels.get place)).1 := rfl

/-! ## The relay -/

/-- A relay state that is known is left alone. -/
theorem keepRelay_of_known [Bus β] {powered : Bool} {s : PanelSide ℓ β}
    (h : s.relay = some powered) : s.keepRelay powered = s := if_pos h

/-- A panel side that has switched the relay. The state is known from then on if the panel
acknowledges it. -/
def switched (on : Bool) (s : PanelSide ℓ β) : PanelSide ℓ β :=
  { s.called relayPlace (Link.switchRelay on) with
    relay :=
      if (Link.switchRelay on (s.panels.get relayPlace)).1.isOk then some on else s.relay }

/-- Only an acknowledged switch is known from then on. -/
theorem alike_switchRelay (on : Bool) (s : PanelSide ℓ β) :
    Alike (s.switchRelay on).2 (s.switched on) := by
  have hcall := s.alike_call relayPlace (Link.switchRelay on)
  rw [switched, switchRelay, ← s.call_fst relayPlace]
  generalize s.call relayPlace (Link.switchRelay on) = result at hcall
  rcases result with ⟨_ | ⟨⟩, s'⟩
  · exact ⟨hcall.sign, hcall.timings, hcall.running, hcall.panels, hcall.painter, hcall.activity,
      hcall.relay⟩
  · exact ⟨hcall.sign, hcall.timings, hcall.running, hcall.panels, hcall.painter, hcall.activity,
      rfl⟩

/-- The bus has no part in a switch. -/
theorem switchRelay_bus (on : Bool) (s : PanelSide ℓ β) :
    (s.switchRelay on).2.hub.bus = s.hub.bus := by
  have hcall : (s.call relayPlace (Link.switchRelay on)).2.hub.bus = s.hub.bus := rfl
  rw [switchRelay]
  generalize s.call relayPlace (Link.switchRelay on) = result at hcall
  rcases result with ⟨e | ⟨⟩, t⟩ <;> exact hcall

/-- The record of the relay is renewed by an acknowledgement and by nothing else. -/
theorem switchRelay_relay (on : Bool) (s : PanelSide ℓ β) :
    (s.switchRelay on).2.relay = if (s.switchRelay on).1.isOk then some on else s.relay := by
  have hcall : (s.call relayPlace (Link.switchRelay on)).2.relay = s.relay := rfl
  rw [switchRelay]
  generalize s.call relayPlace (Link.switchRelay on) = result at hcall
  rcases result with ⟨e | ⟨⟩, t⟩
  · exact hcall
  · rfl

/-- A relay state that is not known to be the wanted one is switched. -/
theorem alike_keepRelay [Bus β] {powered : Bool} {s : PanelSide ℓ β}
    (h : s.relay ≠ some powered) : Alike (s.keepRelay powered) (s.switched powered) := by
  have hswitch := s.alike_switchRelay powered
  rw [keepRelay, if_neg h]
  generalize s.switchRelay powered = result at hswitch
  rcases result with ⟨_ | ⟨⟩, s'⟩
  · exact (alike_say _ _ _).trans hswitch
  · exact ((alike_publishRelay _ _).trans (alike_say _ _ _)).trans hswitch

/-- The end switches the relay off, unless it is known to be off. -/
theorem alike_stop (s : PanelSide ℓ β) :
    Alike s.stop (if s.relay = some false then s else s.switched false) := by
  rw [stop]
  refine (alike_say _ _ _).trans ?_
  split
  · exact .refl s
  · have hswitch := s.alike_switchRelay false
    generalize s.switchRelay false = result at hswitch
    rcases result with ⟨_ | ⟨⟩, s'⟩
    · exact (alike_say _ _ _).trans hswitch
    · exact hswitch

/-- Keeping the relay touches nothing but the panels and what is known about the relay. -/
theorem keepRelay_rest [Bus β] (powered : Bool) (s : PanelSide ℓ β) :
    Alike (s.keepRelay powered)
      { s with
        panels := (s.keepRelay powered).panels
        relay := (s.keepRelay powered).relay } := by
  by_cases known : s.relay = some powered
  · rw [keepRelay_of_known known]
    exact .refl s
  · have h := alike_keepRelay known
    exact ⟨h.sign, h.timings, h.running, rfl, h.painter, h.activity, rfl⟩

/-! ## The bitmap -/

/-- A panel accepts a bitmap if its link says so. -/
def accepts (bitmap : Bitmap) (link : ℓ) : Bool := (Link.showHalves bitmap.toList link).1.isOk

/-- A link over which a bitmap was written. -/
def written (bitmap : Bitmap) (link : ℓ) : ℓ :=
  (Link.takeRemarks (Link.showHalves bitmap.toList link).2).2

/-- Writing to a panel has the answer of its link, and touches that panel only. -/
theorem alike_writePanel (bitmap : Bitmap) (place : Fin 3) (s : PanelSide ℓ β) :
    (s.writePanel bitmap place).1 = accepts bitmap (s.panels.get place) ∧
      Alike (s.writePanel bitmap place).2
        { s with panels := s.panels.set place (written bitmap (s.panels.get place)) } := by
  have hcall := s.alike_call place (Link.showHalves bitmap.toList)
  rw [accepts, writePanel, ← s.call_fst place]
  generalize s.call place (Link.showHalves bitmap.toList) = result at hcall
  rcases result with ⟨_ | ⟨⟩, s'⟩
  · exact ⟨rfl, (alike_say _ _ _).trans hcall⟩
  · exact ⟨rfl, hcall⟩

/-- Every panel is written to, whatever the others answer. -/
theorem alike_writePanels (bitmap : Bitmap) (s : PanelSide ℓ β) :
    (s.writePanels bitmap).1 =
        (accepts bitmap s.panels.zero).toNat + (accepts bitmap s.panels.one).toNat +
          (accepts bitmap s.panels.two).toNat ∧
      Alike (s.writePanels bitmap).2 { s with panels := s.panels.map (written bitmap) } := by
  obtain ⟨ha₀, h₀⟩ := s.alike_writePanel bitmap 0
  obtain ⟨ha₁, h₁⟩ := (s.writePanel bitmap 0).2.alike_writePanel bitmap 1
  obtain ⟨ha₂, h₂⟩ := ((s.writePanel bitmap 0).2.writePanel bitmap 1).2.alike_writePanel bitmap 2
  -- The second and the third write find the panels as the writes before have left them.
  have p₀ := h₀.panels
  have p₁ := h₁.panels
  have p₂ := h₂.panels
  rw [p₁, p₀] at ha₂ p₂
  rw [p₀] at ha₁ p₁
  constructor
  · change (s.writePanel bitmap 0).1.toNat +
      ((s.writePanel bitmap 0).2.writePanel bitmap 1).1.toNat +
      (((s.writePanel bitmap 0).2.writePanel bitmap 1).2.writePanel bitmap 2).1.toNat = _
    rw [ha₀, ha₁, ha₂]
    rfl
  · exact ⟨h₂.sign.trans (h₁.sign.trans h₀.sign), h₂.timings.trans (h₁.timings.trans h₀.timings),
      h₂.running.trans (h₁.running.trans h₀.running), p₂,
      h₂.painter.trans (h₁.painter.trans h₀.painter),
      h₂.activity.trans (h₁.activity.trans h₀.activity),
      h₂.relay.trans (h₁.relay.trans h₀.relay)⟩

theorem writePanel_bus (bitmap : Bitmap) (place : Fin 3) (s : PanelSide ℓ β) :
    (s.writePanel bitmap place).2.hub.bus = s.hub.bus := by
  have hcall : (s.call place (Link.showHalves bitmap.toList)).2.hub.bus = s.hub.bus := rfl
  rw [writePanel]
  generalize s.call place (Link.showHalves bitmap.toList) = result at hcall
  rcases result with ⟨e | ⟨⟩, t⟩ <;> exact hcall

/-- Writing to the panels asks nothing of the bus. -/
theorem writePanels_bus (bitmap : Bitmap) (s : PanelSide ℓ β) :
    (s.writePanels bitmap).2.hub.bus = s.hub.bus := by
  change (((s.writePanel bitmap 0).2.writePanel bitmap 1).2.writePanel bitmap 2).2.hub.bus = _
  rw [writePanel_bus, writePanel_bus, writePanel_bus]

/-- All panels accept a bitmap. -/
def allAccept (bitmap : Bitmap) (panels : Trio ℓ) : Bool :=
  accepts bitmap panels.zero && accepts bitmap panels.one && accepts bitmap panels.two

/-- A panel side that has written a bitmap to its panels, and keeps it in mind if all of them have
accepted it. -/
def pushed (bitmap : Bitmap) (s : PanelSide ℓ β) : PanelSide ℓ β :=
  { s with
    panels := s.panels.map (written bitmap)
    hub := { s.hub with
      sign := if allAccept bitmap s.panels then s.hub.sign.confirm bitmap else s.hub.sign } }

/-- A bitmap is kept in mind exactly if all panels accept it. -/
theorem alike_push (bitmap : Bitmap) (s : PanelSide ℓ β) :
    Alike (s.push bitmap) (s.pushed bitmap) := by
  obtain ⟨hcount, h⟩ := s.alike_writePanels bitmap
  -- The count of acceptances is 3 exactly if there is one from each panel.
  have hall : (s.writePanels bitmap).1 = panelCount ↔ allAccept bitmap s.panels = true := by
    rw [hcount, allAccept, panelCount]
    cases accepts bitmap s.panels.zero <;> cases accepts bitmap s.panels.one <;>
      cases accepts bitmap s.panels.two <;> decide
  rw [push, pushed]
  generalize s.writePanels bitmap = result at h hall
  obtain ⟨count, s'⟩ := result
  dsimp only at hall h ⊢
  by_cases all : allAccept bitmap s.panels = true
  · rw [if_pos all, if_pos (hall.mpr all)]
    exact ⟨congrArg (Sign.confirm bitmap) h.sign, h.timings, h.running, h.panels, h.painter,
      h.activity, h.relay⟩
  · rw [if_neg all, if_neg (fun accepted => all (hall.mp accepted))]
    exact (alike_say _ _ _).trans h

theorem push_bus (bitmap : Bitmap) (s : PanelSide ℓ β) :
    (s.push bitmap).hub.bus = s.hub.bus := by
  have hwrite := s.writePanels_bus bitmap
  rw [push]
  dsimp only
  split <;> exact hwrite

/-- Pushing looks at nothing that was said or published. -/
theorem Alike.pushed {s t : PanelSide ℓ β} (h : Alike s t) (bitmap : Bitmap) :
    Alike (s.pushed bitmap) (t.pushed bitmap) := by
  refine ⟨?_, h.timings, h.running, ?_, h.painter, h.activity, h.relay⟩
  · simp only [PanelSide.pushed, h.panels, h.sign]
  · simp only [PanelSide.pushed, h.panels]

/-! ## Redrawing -/

/-- A drawn bitmap is pushed unless it is the one that all panels are known to show. -/
theorem alike_redraw (now : ClockReading) (s : PanelSide ℓ β) :
    Alike (s.redraw now)
      (if (s.drawn now).hub.sign.lacks (s.picture now) then (s.drawn now).pushed (s.picture now)
        else s.drawn now) := by
  obtain ⟨hpicture, h⟩ := s.alike_draw now
  change Alike
    (if ((s.look now).2.draw (s.look now).1 now).2.hub.sign.lacks
        ((s.look now).2.draw (s.look now).1 now).1
      then ((s.look now).2.draw (s.look now).1 now).2.push
        ((s.look now).2.draw (s.look now).1 now).1
      else ((s.look now).2.draw (s.look now).1 now).2) _
  rw [hpicture, h.sign]
  split
  · exact (alike_push _ _).trans (h.pushed _)
  · exact h

/-- A redraw keeps the timings, the wish to keep running and the activity. -/
theorem redraw_rest (now : ClockReading) (s : PanelSide ℓ β) :
    (s.redraw now).hub.timings = s.hub.timings ∧ (s.redraw now).hub.running = s.hub.running ∧
      (s.redraw now).activity = s.activity := by
  have h := alike_redraw now s
  rw [h.timings, h.running, h.activity]
  split <;> exact ⟨rfl, rfl, rfl⟩

/-- A redraw asks nothing of the bus. -/
theorem redraw_bus (now : ClockReading) (s : PanelSide ℓ β) :
    (s.redraw now).hub.bus = s.hub.bus := by
  have hlook : ((s.look now).2.draw (s.look now).1 now).2.hub.bus = s.hub.bus :=
    (s.look_bus now).1
  rw [redraw]
  dsimp only
  split
  · rw [push_bus, hlook]
  · exact hlook

/-! ## Ticks -/

section Ticks

variable [Bus β]

/-- The bitmap that all panels are known to show. Waking up forgets it. -/
def known (s : PanelSide ℓ β) : Option Bitmap :=
  if s.activity = .active then s.hub.sign.confirmed else none

/-- The panel side in the middle of a tick, when the relay is kept and the power state followed. -/
def attended (s : PanelSide ℓ β) : PanelSide ℓ β :=
  (s.keepRelay s.hub.sign.powered).followPower s.hub.sign.powered

/-- By the time a tick draws, the activity goes with the power state. -/
theorem attended_activity (s : PanelSide ℓ β) :
    s.attended.activity = if s.hub.sign.powered then .active else .idle :=
  (alike_followPower _ _).activity

/-- Until it draws, a tick changes nothing in the sign but what the panels are known to show. -/
theorem attended_sign (s : PanelSide ℓ β) :
    s.attended.hub.sign =
      if s.hub.sign.powered && s.activity == .idle then s.hub.sign.forgetConfirmed
      else s.hub.sign := by
  have h := s.keepRelay_rest s.hub.sign.powered
  rw [attended, (alike_followPower _ _).sign, h.sign, h.activity]

/-- The confirmed bitmap that a powered tick compares with is what the panels are known to show. -/
theorem attended_confirmed {s : PanelSide ℓ β} (h : s.hub.sign.powered = true) :
    s.attended.hub.sign.confirmed = s.known := by
  rw [attended_sign, h, known]
  cases s.activity <;> rfl

/-- Until it draws, a tick touches neither the timings nor the painter. -/
theorem attended_rest (s : PanelSide ℓ β) :
    s.attended.hub.timings = s.hub.timings ∧ s.attended.painter = s.painter := by
  have h := s.keepRelay_rest s.hub.sign.powered
  have hfollow := alike_followPower s.hub.sign.powered (s.keepRelay s.hub.sign.powered)
  exact ⟨hfollow.timings.trans h.timings, hfollow.painter.trans h.painter⟩

/-- What a redraw takes from the sign is there before the relay is kept and the power state
followed. -/
theorem attended_tick (nowMs : Nat) (tickS : Single) (s : PanelSide ℓ β) :
    (s.attended.hub.sign.tick nowMs tickS).1 = (s.hub.sign.tick nowMs tickS).1 ∧
      (s.attended.hub.sign.tick nowMs tickS).2.forgetConfirmed =
        (s.hub.sign.tick nowMs tickS).2.forgetConfirmed := by
  rw [attended_sign]
  split
  · rw [Sign.tick_forgetConfirmed]
    exact ⟨rfl, rfl⟩
  · exact ⟨rfl, rfl⟩

/-- Up to the redraw a tick changes nothing in the picture. -/
theorem attended_picture (now : ClockReading) (s : PanelSide ℓ β) :
    s.attended.picture now = s.picture now := by
  obtain ⟨htimings, hpainter⟩ := s.attended_rest
  rw [picture, picture, htimings, hpainter, (s.attended_tick _ _).1]

/-- A tick draws while the panels are powered. -/
theorem drawing_eq (now : ClockReading) (s : PanelSide ℓ β) :
    s.drawing now = if s.hub.sign.powered then some (s.picture now) else none := by
  change (if s.attended.activity.draws then
    some ((s.attended.look now).2.draw (s.attended.look now).1 now).1 else none) = _
  rw [attended_activity, (s.attended.alike_draw now).1, attended_picture]
  cases s.hub.sign.powered <;> rfl

/-- A tick ends with a redraw while the panels are powered. -/
theorem tick_snd (now : ClockReading) (s : PanelSide ℓ β) :
    (s.tick now).2 = if s.hub.sign.powered then s.attended.redraw now else s.attended := by
  change (if s.attended.activity.draws then s.attended.redraw now else s.attended) = _
  rw [attended_activity]
  cases s.hub.sign.powered <;> rfl

/-- Whatever a tick draws is the picture, and the panels are powered. -/
theorem powered_of_drawing {now : ClockReading} {s : PanelSide ℓ β} {bitmap : Bitmap}
    (h : s.drawing now = some bitmap) : s.hub.sign.powered = true ∧ s.picture now = bitmap := by
  rw [drawing_eq] at h
  split at h
  · exact ⟨‹_›, Option.some.inj h⟩
  · exact absurd h.symm (Option.some_ne_none bitmap)

/-- A tick that draws nothing leaves the panels idle. -/
theorem tick_of_drawing_none {now : ClockReading} {s : PanelSide ℓ β} (h : s.drawing now = none) :
    (s.tick now).2 = s.attended ∧ s.attended.activity = .idle := by
  have hoff : ¬ s.hub.sign.powered = true := fun on => by
    rw [drawing_eq, if_pos on] at h
    exact Option.some_ne_none _ h
  rw [tick_snd, attended_activity, if_neg hoff, if_neg hoff]
  exact ⟨rfl, rfl⟩

/-- Drawing leaves what the panels are known to show. -/
theorem drawn_confirmed (now : ClockReading) {s : PanelSide ℓ β}
    (h : s.hub.sign.powered = true) : (s.attended.drawn now).hub.sign.confirmed = s.known := by
  rw [← attended_confirmed h, drawn, Sign.tick_rest]

/-- A tick that draws a bitmap pushes it, unless it is the one that all panels are known to show. -/
theorem tick_of_drawing_some {now : ClockReading} {s : PanelSide ℓ β} {bitmap : Bitmap}
    (h : s.drawing now = some bitmap) :
    Alike (s.tick now).2
      (if s.known = some bitmap then s.attended.drawn now
        else (s.attended.drawn now).pushed bitmap) := by
  obtain ⟨hon, rfl⟩ := powered_of_drawing h
  have halike := s.attended.alike_redraw now
  rw [attended_picture, Sign.lacks, drawn_confirmed now hon] at halike
  rw [tick_snd, if_pos hon]
  by_cases hknown : s.known = some (s.picture now)
  · rw [hknown, bne_self_eq_false, if_neg Bool.false_ne_true] at halike
    rwa [if_pos hknown]
  · rw [bne_iff_ne.mpr hknown, if_pos rfl] at halike
    rwa [if_neg hknown]

/-- What a tick makes of the sign, as far as it does not concern the panels, is a matter of the sign
alone. -/
theorem tick_sign (now : ClockReading) (s : PanelSide ℓ β) :
    (s.tick now).2.hub.sign.forgetConfirmed =
      if s.hub.sign.powered then
        (s.hub.sign.tick now.sinceEpochMs s.hub.timings.activePeriodS).2.forgetConfirmed
      else s.hub.sign.forgetConfirmed := by
  by_cases hon : s.hub.sign.powered = true
  · have hdraw : s.drawing now = some (s.picture now) := by rw [drawing_eq, if_pos hon]
    have hdrawn : (s.attended.drawn now).hub.sign.forgetConfirmed =
        (s.hub.sign.tick now.sinceEpochMs s.hub.timings.activePeriodS).2.forgetConfirmed := by
      rw [← (s.attended_tick _ _).2, ← s.attended_rest.1]
      rfl
    rw [(tick_of_drawing_some hdraw).sign, if_pos hon, ← hdrawn]
    split
    · rfl
    · rw [pushed]
      dsimp only
      split <;> rfl
  · have hdraw : s.drawing now = none := by rw [drawing_eq, if_neg hon]
    rw [(tick_of_drawing_none hdraw).1, attended_sign, if_neg hon, Bool.eq_false_iff.mpr hon]
    rfl

/-- What a tick makes of the painter is a matter of the sign and the painter alone. -/
theorem tick_painter (now : ClockReading) (s : PanelSide ℓ β) :
    (s.tick now).2.painter =
      if s.hub.sign.powered then
        (s.painter.draw (s.hub.sign.tick now.sinceEpochMs s.hub.timings.activePeriodS).1.view
          now.face).2
      else s.painter := by
  obtain ⟨htimings, hpainter⟩ := s.attended_rest
  by_cases hon : s.hub.sign.powered = true
  · have hdraw : s.drawing now = some (s.picture now) := by rw [drawing_eq, if_pos hon]
    have hdrawn : (s.attended.drawn now).painter =
        (s.painter.draw (s.hub.sign.tick now.sinceEpochMs s.hub.timings.activePeriodS).1.view
          now.face).2 := by
      rw [← (s.attended_tick _ _).1, ← htimings, ← hpainter]
      rfl
    rw [(tick_of_drawing_some hdraw).painter, if_pos hon, ← hdrawn]
    split <;> rfl
  · have hdraw : s.drawing now = none := by rw [drawing_eq, if_neg hon]
    rw [(tick_of_drawing_none hdraw).1, if_neg hon, hpainter]

/-- A tick keeps the timings and the wish to keep running, and ends in the activity that goes with
the power state. -/
theorem tick_rest (now : ClockReading) (s : PanelSide ℓ β) :
    (s.tick now).2.hub.timings = s.hub.timings ∧ (s.tick now).2.hub.running = s.hub.running ∧
      (s.tick now).2.activity = if s.hub.sign.powered then .active else .idle := by
  have hkeep := s.keepRelay_rest s.hub.sign.powered
  have hfollow := alike_followPower s.hub.sign.powered (s.keepRelay s.hub.sign.powered)
  have hattended : s.attended.hub.timings = s.hub.timings ∧
      s.attended.hub.running = s.hub.running :=
    ⟨hfollow.timings.trans hkeep.timings, hfollow.running.trans hkeep.running⟩
  rw [tick_snd, ← attended_activity, ← hattended.1, ← hattended.2]
  split
  · exact s.attended.redraw_rest now
  · exact ⟨rfl, rfl, rfl⟩

/-- A tick asks for a delay by the activity that it ends in. -/
theorem tick_fst (now : ClockReading) (s : PanelSide ℓ β) :
    (s.tick now).1 = (s.tick now).2.activity.periodMs (s.tick now).2.hub.timings := rfl

/-- With a faithful painter a tick draws the picture of what the sign shows. -/
theorem drawing_of_faithful {s : PanelSide ℓ β} (h : s.painter.Faithful) (now : ClockReading) :
    s.drawing now =
      if s.hub.sign.powered then
        some ((s.hub.sign.tick now.sinceEpochMs s.hub.timings.activePeriodS).1.view.bitmap now.face)
      else none := by
  rw [drawing_eq, picture, (h.draw _ _).1]

/-- A tick keeps the painter faithful. -/
theorem tick_faithful {s : PanelSide ℓ β} (h : s.painter.Faithful) (now : ClockReading) :
    (s.tick now).2.painter.Faithful := by
  rw [tick_painter]
  split
  · exact (h.draw _ _).2
  · exact h

end Ticks

end Panels

end PanelSide

end Marquee
