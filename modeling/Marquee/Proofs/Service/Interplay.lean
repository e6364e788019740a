import Marquee.Proofs.Service.Sections
import Marquee.Service.Interplay

/-!
# What a step means

A tick, a greeting and a bus message, each taken without a break, are runs of the interplay
(`leads_tick`, `leads_greet`, `leads_hear`), so that the interplay has all that the two sides can do
one after the other, and more. What a single step can do to the sign is said once, by its incident
(`Step.turns`), and so is what a section of a tick can do to the relay's record and to the bus
(`PanelSide.proceed_cases`).
-/

namespace Marquee

variable {ℓ β : Type}

/-! ## Chores -/

namespace Chore

variable [Bus β]

/-- What is told about a change is a matter of chores. -/
theorem tell_eq_performAll (order : Order) (change : SignChange) (hub : Hub β) :
    hub.tell order change = performAll (tidings hub.timings.lifetimeS order change) hub := by
  cases change with
  | power on => rfl
  | inversion on => rfl
  | message truncated => cases truncated <;> cases order <;> rfl

/-- A chore leaves the sign and the timings alone. -/
theorem perform_rest (chore : Chore) (hub : Hub β) :
    (chore.perform hub).sign = hub.sign ∧ (chore.perform hub).timings = hub.timings := by
  have request (operation : Attempt β BusError Unit) (complaint : BusError → Remark) :
      (hub.request operation complaint).sign = hub.sign ∧
        (hub.request operation complaint).timings = hub.timings := by
    rw [Hub.request]
    rcases operation hub.bus with ⟨_ | _, _⟩ <;> exact ⟨rfl, rfl⟩
  cases chore with
  | say level text => exact ⟨rfl, rfl⟩
  | echo topic payload => exact request _ _
  | listen topic => exact request _ _

end Chore

namespace Interplay

variable [Link ℓ] [Bus β]

/-! ## Work without a break -/

/-- Some run goes from here to there. -/
def Leads (p q : Interplay ℓ β) : Prop := ∃ past, Run p past q

theorem Leads.refl (p : Interplay ℓ β) : Leads p p := ⟨[], .refl⟩

theorem Leads.step {p q r : Interplay ℓ β} {incident : Incident} (h : Leads p q)
    (step : Step q incident r) : Leads p r := by
  obtain ⟨past, run⟩ := h
  exact ⟨past ++ [incident], run.step step⟩

/-- A run that goes on where another ended is a run. -/
theorem Leads.trans {p q r : Interplay ℓ β} (h : Leads p q) (k : Leads q r) : Leads p r := by
  obtain ⟨past, run⟩ := k
  induction run with
  | refl => exact h
  | step _ step ih => exact ih.step step

theorem Step.leads {p q : Interplay ℓ β} {incident : Incident} (step : Step p incident q) :
    Leads p q := (Leads.refl p).step step

/-- Chores in a row are done one step at a time. -/
theorem leads_performAll (side : PanelSide ℓ β) (point : Option TickPoint) (chores : List Chore) :
    Leads ⟨side, point, chores⟩ ⟨side.mapHub (Chore.performAll chores), point, []⟩ := by
  induction chores generalizing side with
  | nil => exact .refl _
  | cons chore rest ih => exact (Step.chore side point chore rest).leads.trans (ih _)

/-- A greeting without a break: it reads the switches and then does its chores. -/
theorem leads_greet (side : PanelSide ℓ β) (point : Option TickPoint) :
    Leads ⟨side, point, []⟩ ⟨side.mapHub Hub.greet, point, []⟩ :=
  (Step.greet side point).leads.trans (leads_performAll side point _)

/-- A bus message without a break. -/
theorem leads_hear (side : PanelSide ℓ β) (point : Option TickPoint) (now : ClockReading)
    (topic : String) (payload : List UInt8) :
    Leads ⟨side, point, []⟩
      ⟨side.mapHub fun hub => (hub.hear now topic payload).2, point, []⟩ := by
  cases hparse : Order.of? topic payload with
  | error e =>
    have hhear (hub : Hub β) : (hub.hear now topic payload).2 =
        hub.say .warn ("ignoring message on " ++ topic ++ ": " ++ e.message) := by
      rw [Hub.hear, hparse]
    simp only [hhear]
    exact (Step.remark side point _ _).leads
  | ok order =>
    have hhear (hub : Hub β) : (hub.hear now topic payload).2 =
        (hub.applyOrder order now.sinceEpochMs).2.tell order
          (hub.applyOrder order now.sinceEpochMs).1 := by
      rw [Hub.hear, hparse]
    refine (Step.obey side point order now.sinceEpochMs).leads.trans ?_
    simp only [hhear, Chore.tell_eq_performAll]
    exact leads_performAll _ point _

/-- Pushing a bitmap without a break: the panels are written to, and then the sign is told. -/
theorem leads_push (side : PanelSide ℓ β) (bitmap : Bitmap) (chores : List Chore) :
    Leads ⟨side, some (.lacking bitmap), chores⟩ ⟨side.push bitmap, none, chores⟩ := by
  refine (Step.proceed side _ chores).leads.trans ?_
  rw [PanelSide.proceed, PanelSide.push]
  generalize side.writePanels bitmap = result
  obtain ⟨accepted, s⟩ := result
  dsimp only
  by_cases all : accepted = panelCount
  · rw [if_pos all, if_pos all]
    exact (Step.proceed s (.accepted bitmap) chores).leads
  · rw [if_neg all, if_neg all]
    exact .refl _

/-- A redraw without a break: it looks, draws and pushes what is lacking. -/
theorem leads_redraw (side : PanelSide ℓ β) (now : ClockReading) (chores : List Chore) :
    Leads ⟨side, some (.awake now), chores⟩ ⟨side.redraw now, none, chores⟩ := by
  refine (Step.proceed side _ chores).leads.trans ?_
  refine (Step.proceed _ (.looked now (side.look now).1) chores).leads.trans ?_
  rw [PanelSide.redraw, PanelSide.proceed, PanelSide.proceed]
  dsimp only
  generalize (side.look now).2.draw (side.look now).1 now = result
  obtain ⟨bitmap, s⟩ := result
  dsimp only
  by_cases lacks : s.hub.sign.lacks bitmap = true
  · rw [if_pos lacks, if_pos lacks]
    exact leads_push s bitmap chores
  · rw [if_neg lacks, if_neg lacks]
    exact .refl _

/-- The part of a tick after the relay, without a break. -/
theorem leads_followed (side : PanelSide ℓ β) (now : ClockReading) (powered : Bool)
    (chores : List Chore) :
    Leads ⟨side, some (.kept now powered), chores⟩
      ⟨if (side.followPower powered).activity.draws then (side.followPower powered).redraw now
        else side.followPower powered, none, chores⟩ := by
  refine (Step.proceed side _ chores).leads.trans ?_
  rw [PanelSide.proceed]
  dsimp only
  by_cases draws : (side.followPower powered).activity.draws = true
  · rw [if_pos draws, if_pos draws]
    exact leads_redraw _ now chores
  · rw [if_neg draws, if_neg draws]
    exact .refl _

/-- Keeping the relay without a break: it switches, and then publishes what was acknowledged. -/
theorem leads_keepRelay (side : PanelSide ℓ β) (now : ClockReading) (powered : Bool)
    (chores : List Chore) :
    Leads ⟨side, some (.read now powered), chores⟩
      ⟨side.keepRelay powered, some (.kept now powered), chores⟩ := by
  refine (Step.proceed side _ chores).leads.trans ?_
  rw [PanelSide.proceed, PanelSide.keepRelay]
  by_cases known : side.relay = some powered
  · rw [if_pos known, if_pos known]
    exact .refl _
  · rw [if_neg known, if_neg known]
    generalize side.switchRelay powered = result
    rcases result with ⟨e | ⟨⟩, s⟩
    · exact .refl _
    · exact (Step.proceed _ (.acknowledged now powered) chores).leads

/-- A tick without a break. -/
theorem leads_tick (side : PanelSide ℓ β) (now : ClockReading) (chores : List Chore) :
    Leads ⟨side, none, chores⟩ ⟨(side.tick now).2, none, chores⟩ :=
  (Step.begin side chores now).leads.trans <|
    (leads_keepRelay side now side.hub.sign.powered chores).trans <|
      leads_followed (side.keepRelay side.hub.sign.powered) now side.hub.sign.powered chores

end Interplay

/-! ## The sign -/

/-- What an incident makes of the sign. What all panels are known to show may change at any time. -/
def Incident.Turns (c : Timings) (before : Sign) : Incident → Sign → Prop
  | .ordered order nowMs, after => after = (before.obey c messageSpan order nowMs).2
  | .looked nowMs view, after =>
    view = (before.tick nowMs c.activePeriodS).1.view ∧
      after = (before.tick nowMs c.activePeriodS).2
  | .quiet, after => ∃ confirmed, after = { before with confirmed := confirmed }

/-- If nothing is to be seen of an incident, the sign stays as it is. -/
theorem Incident.turns_quiet (c : Timings) (s : Sign) : Incident.quiet.Turns c s s :=
  ⟨s.confirmed, rfl⟩

namespace PanelSide

variable [Link ℓ] [Bus β]

/-- A section of a tick does to the sign what its incident says. -/
theorem proceed_turns (point : TickPoint) (s : PanelSide ℓ β) :
    (s.proceed point).2.hub.timings = s.hub.timings ∧
      (point.incident s).Turns s.hub.timings s.hub.sign (s.proceed point).2.hub.sign := by
  have quiet {t : PanelSide ℓ β} (htimings : t.hub.timings = s.hub.timings)
      (hsign : t.hub.sign = s.hub.sign) :
      t.hub.timings = s.hub.timings ∧
        Incident.quiet.Turns s.hub.timings s.hub.sign t.hub.sign :=
    ⟨htimings, s.hub.sign.confirmed, hsign⟩
  cases point with
  | read now powered =>
    have hswitch := s.alike_switchRelay powered
    rw [proceed]
    split
    · exact quiet rfl rfl
    · generalize s.switchRelay powered = result at hswitch
      rcases result with ⟨e | ⟨⟩, t⟩
      · exact quiet hswitch.timings hswitch.sign
      · exact quiet hswitch.timings hswitch.sign
  | acknowledged now powered =>
    have hpublish := alike_publishRelay powered s
    exact quiet hpublish.timings hpublish.sign
  | kept now powered =>
    have hfollow := alike_followPower powered s
    refine ⟨hfollow.timings, (s.followPower powered).hub.sign.confirmed, ?_⟩
    change (s.followPower powered).hub.sign = _
    rw [hfollow.sign]
    split <;> rfl
  | awake now =>
    rw [proceed, TickPoint.incident, look]
    dsimp only
    split <;> exact ⟨rfl, rfl, rfl⟩
  | looked now view => exact quiet rfl rfl
  | lacking bitmap =>
    obtain ⟨-, hwrite⟩ := alike_writePanels bitmap s
    rw [proceed]
    generalize s.writePanels bitmap = result at hwrite
    obtain ⟨count, t⟩ := result
    dsimp only
    split <;> exact quiet hwrite.timings hwrite.sign
  | accepted bitmap => exact ⟨rfl, some bitmap, rfl⟩

end PanelSide

/-- Every step makes of the sign what its incident says, and leaves the timings alone. -/
theorem Interplay.Step.turns [Link ℓ] [Bus β] {p q : Interplay ℓ β} {incident : Incident}
    (step : Step p incident q) :
    q.side.hub.timings = p.side.hub.timings ∧
      incident.Turns p.side.hub.timings p.sign q.sign := by
  cases step with
  | panels side point chores panels => exact ⟨rfl, Incident.turns_quiet _ _⟩
  | remark side point level text => exact ⟨rfl, Incident.turns_quiet _ _⟩
  | greet side point => exact ⟨rfl, Incident.turns_quiet _ _⟩
  | obey side point order nowMs => exact ⟨rfl, rfl⟩
  | chore side point chore rest =>
    obtain ⟨hsign, htimings⟩ := chore.perform_rest side.hub
    exact ⟨htimings, side.hub.sign.confirmed, hsign⟩
  | begin side chores now => exact ⟨rfl, Incident.turns_quiet _ _⟩
  | proceed side point chores => exact side.proceed_turns point

/-! ## The relay and the bus -/

namespace PanelSide

variable [Link ℓ] [Bus β]

/-- What a section of a tick does to the record of the relay and to the bus: it hears an
acknowledgement, it publishes one, or it does neither. -/
theorem proceed_cases (point : TickPoint) (s : PanelSide ℓ β) :
    (∃ now on, point = .read now on ∧ (s.proceed point).1 = some (.acknowledged now on) ∧
        (s.proceed point).2.relay = some on ∧ (s.proceed point).2.hub.bus = s.hub.bus) ∨
      (∃ now on, point = .acknowledged now on ∧ s.proceed point =
        (some (.kept now on), s.publishRelay on)) ∨
      (∀ now on, point ≠ .acknowledged now on) ∧
        (∀ now on, (s.proceed point).1 ≠ some (.acknowledged now on)) ∧
        (s.proceed point).2.relay = s.relay ∧ (s.proceed point).2.hub.bus = s.hub.bus := by
  cases point with
  | read now powered =>
    have hbus := s.switchRelay_bus powered
    have hrelay := s.switchRelay_relay powered
    by_cases known : s.relay = some powered
    · rw [proceed, if_pos known]
      exact .inr (.inr ⟨by simp, by simp, rfl, rfl⟩)
    · rw [proceed, if_neg known]
      generalize s.switchRelay powered = result at hbus hrelay
      rcases result with ⟨e | ⟨⟩, t⟩
      · exact .inr (.inr ⟨by simp, by simp, hrelay, hbus⟩)
      · exact .inl ⟨now, powered, rfl, rfl, hrelay, hbus⟩
  | acknowledged now powered => exact .inr (.inl ⟨now, powered, rfl, rfl⟩)
  | kept now powered =>
    have hrelay := (alike_followPower powered s).relay
    refine .inr (.inr ⟨by simp, ?_, hrelay, s.followPower_bus powered⟩)
    intro now' on
    rw [proceed]
    dsimp only
    split <;> simp
  | awake now =>
    obtain ⟨hbus, hrelay⟩ := s.look_bus now
    exact .inr (.inr ⟨by simp, by simp [proceed], hrelay, hbus⟩)
  | looked now view =>
    refine .inr (.inr ⟨by simp, ?_, rfl, rfl⟩)
    intro now' on
    rw [proceed]
    dsimp only
    split <;> simp
  | lacking bitmap =>
    obtain ⟨-, hwrite⟩ := alike_writePanels bitmap s
    have hbus := s.writePanels_bus bitmap
    rw [proceed]
    generalize s.writePanels bitmap = result at hwrite hbus
    obtain ⟨count, t⟩ := result
    dsimp only
    split
    · exact .inr (.inr ⟨by simp, by simp, hwrite.relay, hbus⟩)
    · exact .inr (.inr ⟨by simp, by simp, hwrite.relay, hbus⟩)
  | accepted bitmap => exact .inr (.inr ⟨by simp, by simp [proceed], rfl, rfl⟩)

end PanelSide

end Marquee
