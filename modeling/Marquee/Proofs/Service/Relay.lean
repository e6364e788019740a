import Marquee.Bus.Record
import Marquee.History
import Marquee.Proofs.Service.Lines

/-!
# The relay and what is known about it

The panel side switches the relay only if the wanted power state is not the one that the panel
acknowledged last. An unresponsive panel carries out a switch all the same, so the relay may part
from the acknowledged state. The invariant `RelayHistory` ties both to the ticks so far: the
acknowledged state is the one that a responsive panel met last, and the relay differs from it
exactly if another state was wanted since (`SwitchLost`).

The relay is then right at the end of a tick with a responsive panel, and off after the end of a
run, exactly if no such switch was lost on the way to the wanted state (`relay_eq_powered_iff`,
`relay_off_iff`).
-/

namespace Marquee

/-- A responsive panel met this power state, and no responsive panel has met the other since. -/
def Acknowledged (on : Bool) : List TickRecord → Prop :=
  Stands (fun r => r.powered = on ∧ r.responsive PanelSide.relayPlace = true)
    (fun r => r.responsive PanelSide.relayPlace = true → r.powered = on)

/-- This power state is the acknowledged one, but a tick since then wanted the other. The panel
carried that switch out, and its acknowledgement was lost. -/
def SwitchLost (on : Bool) : List TickRecord → Prop :=
  Contested (fun r => r.powered = on ∧ r.responsive PanelSide.relayPlace = true)
    (fun r => r.responsive PanelSide.relayPlace = true → r.powered = on) (fun r => r.powered ≠ on)

theorem acknowledged_concat {on : Bool} {past : List TickRecord} {r : TickRecord} :
    Acknowledged on (past ++ [r]) ↔
      r.powered = on ∧ r.responsive PanelSide.relayPlace = true ∨
        Acknowledged on past ∧ (r.responsive PanelSide.relayPlace = true → r.powered = on) :=
  stands_concat

theorem switchLost_concat {on : Bool} {past : List TickRecord} {r : TickRecord} :
    SwitchLost on (past ++ [r]) ↔
      (r.responsive PanelSide.relayPlace = true → r.powered = on) ∧
        (SwitchLost on past ∨ Acknowledged on past ∧ r.powered ≠ on) :=
  contested_concat

namespace Chronicle

variable {β : Type} {c : Chronicle β}

/-- The relay, and what is known about it, are what the ticks so far have made of them. -/
structure RelayHistory (c : Chronicle β) : Prop where
  /-- the relay's line is in step -/
  inStep : (c.side.line 0).InStep
  /-- the known state is the acknowledged one -/
  known : ∀ on, c.side.relay = some on ↔ Acknowledged on c.past
  /-- the relay differs from the known state exactly if a switch was lost -/
  lost : ∀ on, c.side.relay = some on →
    ((c.side.panel 0).relay ≠ on ↔ SwitchLost on c.past)

namespace RelayHistory

theorem start [Bus β] (hub : Hub β) (p : Firmware) (one two : ChannelLink PanelLine) :
    (Chronicle.start hub ⟨⟨.ofPanel p⟩, one, two⟩).RelayHistory where
  inStep := PanelLine.inStep_ofPanel p
  known on := iff_of_false (Option.some_ne_none on).symm not_stands_nil
  lost on h := absurd h.symm (Option.some_ne_none on)

/-- Orders and panels that fall silent change neither the relay nor what is known about it. -/
theorem congr (h : c.RelayHistory) {side : PanelSide (ChannelLink PanelLine) β}
    (hstep : (side.line 0).InStep) (hknown : side.relay = c.side.relay)
    (hrelay : (side.panel 0).relay = (c.side.panel 0).relay) :
    RelayHistory { c with side := side } where
  inStep := hstep
  known on := by rw [hknown]; exact h.known on
  lost on hon := by
    rw [hrelay]
    exact h.lost on (hknown.symm.trans hon)

/-- The end of the panel side leaves the relay off, unless a switch to off was lost. -/
theorem relay_stop (h : c.RelayHistory) :
    (c.side.stop.panel 0).relay = false ↔ ¬ SwitchLost false c.past := by
  have hstop := PanelSide.stop_line h.inStep
  by_cases hoff : c.side.relay = some false
  · rw [hstop, if_pos hoff, ← h.lost _ hoff, not_not]
  · have hnot : ¬ SwitchLost false c.past := fun hlost => hoff ((h.known _).mpr hlost.stands)
    rw [hstop, if_neg hoff]
    exact iff_of_true rfl hnot

variable [Bus β]

theorem setResponsive (h : c.RelayHistory) (place : Fin 3) (on : Bool) :
    (c.after (.responsive place on)).RelayHistory := by
  rcases eq_or_ne place 0 with rfl | hne
  · exact h.congr (h.inStep.setResponsive on) rfl rfl
  · have hline : (c.side.setResponsive place on).line 0 = c.side.line 0 := by
      rw [PanelSide.line, PanelSide.setResponsive, Trio.get_set_of_ne _ _ hne]
      rfl
    refine h.congr ?_ rfl ?_
    · rw [hline]
      exact h.inStep
    · rw [PanelSide.panel, hline]
      rfl

theorem tick (h : c.RelayHistory) (now : ClockReading) : (c.after (.tick now)).RelayHistory := by
  obtain ⟨hstep, hrelay, hknown⟩ := PanelSide.tick_relay h.inStep now
  change RelayHistory ⟨(c.side.tick now).2, c.past ++ [c.record now]⟩
  have hpowered : c.side.hub.sign.powered = (c.record now).powered := rfl
  have hresponsive :
      (c.side.panel 0).responsive = (c.record now).responsive PanelSide.relayPlace := rfl
  rw [hpowered] at hrelay hknown
  rw [hresponsive] at hknown
  generalize c.record now = r at hrelay hknown ⊢
  -- A responsive panel settles the state that it met. A silent one carries a switch out and leaves
  -- the known state as it was.
  refine ⟨hstep, fun on => ?_, fun on hon => ?_⟩
  · rw [hknown, acknowledged_concat, ← h.known on]
    cases r.responsive PanelSide.relayPlace <;> simp
  · rw [hknown] at hon
    rw [hrelay, switchLost_concat, ← h.known on]
    cases hr : r.responsive PanelSide.relayPlace with
    | true =>
      rw [hr, if_pos rfl] at hon
      obtain rfl := Option.some.inj hon
      by_cases hsame : c.side.relay = some r.powered
      · rw [if_pos hsame, h.lost _ hsame]
        simp
      · have hnot : ¬ SwitchLost r.powered c.past := fun hlost =>
          hsame ((h.known _).mpr hlost.stands)
        simp [hsame, hnot]
    | false =>
      rw [hr, if_neg Bool.false_ne_true] at hon
      by_cases hsame : r.powered = on
      · subst hsame
        rw [if_pos hon, h.lost _ hon]
        simp
      · have hother : c.side.relay ≠ some r.powered := fun h =>
          hsame (Option.some.inj (h.symm.trans hon))
        rw [if_neg hother]
        simp [hon, hsame]

/-- Neither a tick nor an order after it changes whether the panel answers. -/
theorem responsive_tick (h : c.RelayHistory) (now : ClockReading) {order : Order} {nowMs : Nat}
    {later : ClockReading} :
    (((c.after (.tick now)).after (.order order nowMs)).record later).responsive
        PanelSide.relayPlace =
      (c.side.panel 0).responsive :=
  PanelSide.tick_responsive h.inStep now

theorem after (h : c.RelayHistory) (happening : Happening) : (c.after happening).RelayHistory := by
  cases happening with
  | order order nowMs => exact h.congr h.inStep rfl rfl
  | responsive place on => exact h.setResponsive place on
  | tick now => exact h.tick now

theorem course (h : c.RelayHistory) (happenings : List Happening) :
    (c.course happenings).RelayHistory :=
  course_keeps (fun h => h.after) h happenings

/-- A run that is asked to end before it begins does nothing but switch the relay off. -/
theorem relay_run (h : c.RelayHistory) {moments : List PanelSide.Moment} :
    (((c.side.mapHub fun hub => hub.requestEnd.2).run moments).panel 0).relay = false ↔
      ¬ SwitchLost false c.past := by
  rw [PanelSide.run, PanelSide.runTicks_of_ended rfl]
  have ended : RelayHistory
      { c with
        side := (c.side.mapHub fun hub => hub.requestEnd.2).say .info "panel loop started" } :=
    h.congr h.inStep rfl rfl
  exact ended.relay_stop

/-- At the end of a tick the relay is right, unless a switch was lost. -/
theorem relay_tick (h : c.RelayHistory) (now : ClockReading) :
    ((c.side.tick now).2.panel 0).relay = c.side.hub.sign.powered ↔
      ¬ SwitchLost c.side.hub.sign.powered c.past := by
  obtain ⟨-, hrelay, -⟩ := PanelSide.tick_relay h.inStep now
  rw [hrelay]
  by_cases hsame : c.side.relay = some c.side.hub.sign.powered
  · rw [if_pos hsame, ← h.lost _ hsame, not_not]
  · have hnot : ¬ SwitchLost c.side.hub.sign.powered c.past := fun hlost =>
      hsame ((h.known _).mpr hlost.stands)
    simp [hsame, hnot]

end RelayHistory

end Chronicle

/-! ## The relay follows the power state -/

/-- At the end of a tick the relay is in the power state that the tick read, whether the panel
answered or not, exactly if no switch away from that state was lost since the panel acknowledged
it. -/
theorem relay_eq_powered_iff {β : Type} [Bus β] (hub : Hub β) (p : Firmware)
    (one two : ChannelLink PanelLine) (happenings : List Happening) (now : ClockReading) :
    let c := (Chronicle.start hub ⟨⟨.ofPanel p⟩, one, two⟩).course happenings
    ((c.after (.tick now)).side.panel 0).relay = c.side.hub.sign.powered ↔
      ¬ SwitchLost c.side.hub.sign.powered c.past :=
  ((Chronicle.RelayHistory.start hub p one two).course happenings).relay_tick now

/-- The relay stays off while power is wanted and the panel answers, after power was wanted off and
on again while the panel did not answer. -/
theorem relay_off_while_powered :
    let now : ClockReading := ⟨1700000000000, 0⟩
    let c := (Chronicle.start (Hub.new .default BusRecord.new)
        ⟨⟨.new 0⟩, ⟨.new 1⟩, ⟨.new 2⟩⟩).course
      [.tick now, .order (.power false) 0, .responsive 0 false, .tick now,
        .order (.power true) 0, .responsive 0 true]
    (c.side.panel 0).responsive = true ∧ c.side.hub.sign.powered = true ∧
      ((c.after (.tick now)).side.panel 0).relay = false := by
  intro now c
  have history : c.RelayHistory := (Chronicle.RelayHistory.start _ _ _ _).course _
  let first := Chronicle.start (Hub.new .default BusRecord.new) ⟨⟨.new 0⟩, ⟨.new 1⟩, ⟨.new 2⟩⟩
  let silent :=
    ((first.after (.tick now)).after (.order (.power false) 0)).after (.responsive 0 false)
  have hpast : c.past = ([] ++ [first.record now]) ++ [silent.record now] := rfl
  have hsilent : (silent.record now).responsive PanelSide.relayPlace = false := rfl
  have hoff : (silent.record now).powered = false := rfl
  have lost : SwitchLost true c.past := by
    rw [hpast, switchLost_concat, hsilent, hoff]
    exact ⟨fun hanswers => absurd hanswers Bool.false_ne_true,
      .inr ⟨acknowledged_concat.mpr (.inl ⟨rfl, rfl⟩), Bool.false_ne_true⟩⟩
  -- The last tick is a matter of the invariant, so what led to it can be forgotten.
  have hpowered : c.side.hub.sign.powered = true := rfl
  have hanswers : (c.side.panel 0).responsive = true := rfl
  clear_value c
  have hrelay := history.relay_tick now
  rw [hpowered] at hrelay
  exact ⟨hanswers, hpowered, Bool.eq_false_iff.mpr fun hon => hrelay.mp hon lost⟩

/-! ## The relay is off in the end -/

/-- Once the end was asked for, the relay is off after the run, whether the panel answers or not,
exactly if no switch to on was lost since the panel acknowledged that it is off. -/
theorem relay_off_iff {β : Type} [Bus β] (hub : Hub β) (p : Firmware)
    (one two : ChannelLink PanelLine) (happenings : List Happening)
    (moments : List PanelSide.Moment) :
    let c := (Chronicle.start hub ⟨⟨.ofPanel p⟩, one, two⟩).course happenings
    (((c.side.mapHub fun hub => hub.requestEnd.2).run moments).panel 0).relay = false ↔
      ¬ SwitchLost false c.past := by
  intro c
  exact ((Chronicle.RelayHistory.start hub p one two).course happenings).relay_run

/-- The relay stays on after the run, although the panel answers, after power was wanted on and the
panel did not answer. -/
theorem relay_on_after_run :
    let now : ClockReading := ⟨1700000000000, 0⟩
    let c := (Chronicle.start (Hub.new .default BusRecord.new)
        ⟨⟨.new 0⟩, ⟨.new 1⟩, ⟨.new 2⟩⟩).course
      [.tick now, .order (.power false) 0, .tick now, .order (.power true) 0,
        .responsive 0 false, .tick now, .responsive 0 true]
    (c.side.panel 0).responsive = true ∧
      (((c.side.mapHub fun hub => hub.requestEnd.2).run []).panel 0).relay = true := by
  intro now c
  have history : c.RelayHistory := (Chronicle.RelayHistory.start _ _ _ _).course _
  let first := Chronicle.start (Hub.new .default BusRecord.new) ⟨⟨.new 0⟩, ⟨.new 1⟩, ⟨.new 2⟩⟩
  let off := (first.after (.tick now)).after (.order (.power false) 0)
  let silent :=
    ((off.after (.tick now)).after (.order (.power true) 0)).after (.responsive 0 false)
  have hpast : c.past = ([first.record now] ++ [off.record now]) ++ [silent.record now] := rfl
  have hoff : (off.record now).powered = false := rfl
  have hsilent : (silent.record now).responsive PanelSide.relayPlace = false := rfl
  have hon : (silent.record now).powered = true := rfl
  have hanswers : (c.side.panel 0).responsive = true := rfl
  have hheard : (off.record now).responsive PanelSide.relayPlace = true :=
    (Chronicle.RelayHistory.start _ _ _ _).responsive_tick now
  have lost : SwitchLost false c.past := by
    rw [hpast, switchLost_concat, hsilent, hon]
    exact ⟨fun hanswers => absurd hanswers Bool.false_ne_true,
      .inr ⟨acknowledged_concat.mpr (.inl ⟨hoff, hheard⟩), Bool.false_ne_true.symm⟩⟩
  clear_value c
  exact ⟨hanswers, (Bool.not_eq_false _).mp fun hoff => history.relay_run.mp hoff lost⟩

end Marquee
