import Marquee.Proofs.Service.Watched
import Marquee.Service.Overhearing

/-!
# Listening in changes nothing

No section of a tick looks into the bus, so a panel side on an overheard bus does what it does on
the bus alone: each section commutes with forgetting what was asked, and so does a whole run
(`Diary.plain_course`).
-/

namespace Marquee

variable {ℓ β : Type}

/-- A publication does to the bus alone what it does to the overheard one. -/
theorem Hub.plain_publish [Bus β] (topic payload : String) (retain : Bool)
    (complaint : BusError → Remark) (hub : Hub (Overheard β)) :
    (hub.request (Bus.publish topic payload retain) complaint).plain =
      hub.plain.request (Bus.publish topic payload retain) complaint := by
  have hpublish : Bus.publish topic payload retain hub.bus =
      ((Bus.publish topic payload retain hub.bus.bus).1,
        ⟨(Bus.publish topic payload retain hub.bus.bus).2,
          hub.bus.asked ++ [.publish topic payload retain]⟩) := rfl
  have hbus : hub.plain.bus = hub.bus.bus := rfl
  rw [request, request, hpublish, hbus]
  generalize Bus.publish topic payload retain hub.bus.bus = result
  rcases result with ⟨e | ⟨⟩, bus⟩ <;> rfl

namespace PanelSide

variable (s : PanelSide ℓ (Overheard β))

/-! ## Sections -/

@[simp] theorem plain_sign : s.plain.hub.sign = s.hub.sign := rfl

@[simp] theorem plain_timings : s.plain.hub.timings = s.hub.timings := rfl

@[simp] theorem plain_activity : s.plain.activity = s.activity := rfl

@[simp] theorem plain_relay : s.plain.relay = s.relay := rfl

theorem plain_publishRelay [Bus β] (on : Bool) :
    (s.publishRelay on).plain = s.plain.publishRelay on :=
  congrArg (fun hub => { s.plain with hub := hub })
    (s.hub.plain_publish Topic.power (switchPayload on) true _)

theorem plain_followPower (powered : Bool) :
    (s.followPower powered).plain = s.plain.followPower powered := by
  rw [followPower, followPower, plain_activity]
  cases powered <;> cases s.activity <;> rfl

/-- A look sees the same sign on either bus. -/
theorem plain_look (now : ClockReading) :
    s.plain.look now = ((s.look now).1, (s.look now).2.plain) := by
  rw [look, look, plain_sign, plain_timings]
  refine Prod.ext rfl ?_
  dsimp only
  split <;> rfl

variable [Link ℓ]

theorem plain_switchRelay (on : Bool) :
    s.plain.switchRelay on = ((s.switchRelay on).1, (s.switchRelay on).2.plain) := by
  have hcall : s.plain.call relayPlace (Link.switchRelay on) =
      ((s.call relayPlace (Link.switchRelay on)).1,
        (s.call relayPlace (Link.switchRelay on)).2.plain) := rfl
  rw [switchRelay, switchRelay, hcall]
  generalize s.call relayPlace (Link.switchRelay on) = result
  rcases result with ⟨e | ⟨⟩, t⟩ <;> rfl

/-- Keeping the relay does the same on either bus. -/
theorem plain_keepRelay [Bus β] (powered : Bool) :
    (s.keepRelay powered).plain = s.plain.keepRelay powered := by
  rw [keepRelay, keepRelay, plain_switchRelay, plain_relay]
  split
  · rfl
  · generalize s.switchRelay powered = result
    rcases result with ⟨e | ⟨⟩, t⟩
    · rfl
    · exact plain_publishRelay _ powered

/-- Writing to a panel has the same answer on either bus. -/
theorem plain_writePanel (bitmap : Bitmap) (place : Fin 3) :
    s.plain.writePanel bitmap place =
      ((s.writePanel bitmap place).1, (s.writePanel bitmap place).2.plain) := by
  have hcall : s.plain.call place (Link.showHalves bitmap.toList) =
      ((s.call place (Link.showHalves bitmap.toList)).1,
        (s.call place (Link.showHalves bitmap.toList)).2.plain) := rfl
  rw [writePanel, writePanel, hcall]
  generalize s.call place (Link.showHalves bitmap.toList) = result
  rcases result with ⟨e | ⟨⟩, t⟩ <;> rfl

theorem plain_push (bitmap : Bitmap) : (s.push bitmap).plain = s.plain.push bitmap := by
  have hwrite : s.plain.writePanels bitmap =
      ((s.writePanels bitmap).1, (s.writePanels bitmap).2.plain) := by
    simp only [writePanels, plain_writePanel]
  rw [push, push, hwrite]
  dsimp only
  split <;> rfl

/-- A redraw does the same on either bus. -/
theorem plain_redraw (now : ClockReading) : (s.redraw now).plain = s.plain.redraw now := by
  have hdraw : (s.look now).2.plain.draw (s.look now).1 now =
      (((s.look now).2.draw (s.look now).1 now).1,
        ((s.look now).2.draw (s.look now).1 now).2.plain) := rfl
  rw [redraw, redraw, plain_look]
  dsimp only
  rw [hdraw, plain_sign, ← plain_push]
  exact apply_ite plain _ _ _

variable [Bus β]

/-- Up to the redraw a tick does the same on either bus. -/
theorem plain_attended : s.attended.plain = s.plain.attended := by
  rw [attended, plain_followPower, plain_keepRelay, attended, plain_sign]

/-! ## Ticks -/

/-- A tick asks for the same delay and does the same on either bus. -/
theorem plain_tick (now : ClockReading) :
    s.plain.tick now = ((s.tick now).1, (s.tick now).2.plain) := by
  have hsnd : (s.plain.tick now).2 = (s.tick now).2.plain := by
    rw [tick_snd, tick_snd, plain_sign, ← plain_attended, ← plain_redraw]
    exact (apply_ite plain _ _ _).symm
  refine Prod.ext ?_ hsnd
  rw [tick_fst, tick_fst, hsnd, plain_activity, plain_timings]

/-- A tick makes the same calls on either bus. -/
theorem plain_tickNotes (now : ClockReading) : s.plain.tickNotes now = s.tickNotes now := by
  have hrelay (powered : Bool) : s.plain.relayNotes powered = s.relayNotes powered := by
    rw [relayNotes, relayNotes, plain_switchRelay, plain_relay]
  have hredraw : s.plain.attended.redrawNotes now = s.attended.redrawNotes now := by
    rw [← plain_attended]
    rfl
  rw [tickNotes, tickNotes, plain_sign, hrelay, hredraw]

/-- A tick is put down in the same way on either bus. -/
theorem plain_note (now : ClockReading) : s.plain.note now = s.note now := by
  have hdrawing : s.plain.drawing now = s.drawing now := by
    rw [drawing_eq, drawing_eq]
    rfl
  have hcalls : ((⟨s.plain, []⟩ : Watched ℓ β).tick now).2.calls =
      ((⟨s, []⟩ : Watched ℓ (Overheard β)).tick now).2.calls := by
    rw [Watched.tick_eq, Watched.tick_eq, plain_tickNotes]
  rw [note, note, plain_tick, hdrawing, hcalls]
  rfl

end PanelSide

/-! ## Runs -/

namespace Diary

variable [Link ℓ] [Bus β]

/-- An occasion leads to the same diary on either bus. -/
theorem plain_after (d : Diary ℓ (Overheard β)) (occasion : Occasion ℓ β) :
    (d.after occasion.overheard).plain = d.plain.after occasion := by
  obtain ⟨panels, bus, cue⟩ := occasion
  cases cue with
  | order order nowMs => rfl
  | tick now =>
    let s := d.side.meanwhile panels (Overheard.mapBus bus)
    have hplain : d.plain.side.meanwhile panels bus = s.plain := rfl
    change Diary.mk (s.tick now).2.plain (d.past ++ [s.note now]) =
      ⟨((d.plain.side.meanwhile panels bus).tick now).2,
        d.past ++ [(d.plain.side.meanwhile panels bus).note now]⟩
    rw [hplain, PanelSide.plain_tick, PanelSide.plain_note]

/-- A run on an overheard bus is the run on the bus alone. -/
theorem plain_course (d : Diary ℓ (Overheard β)) (occasions : List (Occasion ℓ β)) :
    (d.course (occasions.map Occasion.overheard)).plain = d.plain.course occasions := by
  induction occasions generalizing d with
  | nil => rfl
  | cons occasion rest ih =>
    have hafter := ih (d.after occasion.overheard)
    rw [plain_after] at hafter
    exact hafter

end Diary

end Marquee
