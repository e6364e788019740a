import Marquee.Proofs.Service.Sections
import Marquee.Service.Watched

/-!
# What a watched tick notes

A watched panel side goes through a tick as one that nobody watches, so its account is that of the
calls which every tick makes (`Watched.tick_eq`). The account of a tick begins with the relay,
unless it is known to be as wanted. Then, for a drawn bitmap that the panels are not known to show,
there is one image for each panel in order, whatever the panels before it have answered. These calls
are all that happens to the links (`PanelSide.callsMade_tick`), since a section of a tick makes a
call or leaves the panels alone (`Watched.Since`).
-/

namespace Marquee

variable {ℓ β : Type} [Link ℓ]

namespace PanelSide

/-! ## Accounts -/

/-- The account of keeping the relay. -/
def relayNotes (powered : Bool) (s : PanelSide ℓ β) : List CallNote :=
  if s.relay = some powered then []
  else [⟨relayPlace, .relay powered, (s.switchRelay powered).1.isOk⟩]

/-- The account of writing a bitmap to all panels. -/
def imageNotes (bitmap : Bitmap) (panels : Trio ℓ) : List CallNote :=
  (List.finRange 3).map fun place =>
    ⟨place, .image bitmap, accepts bitmap (panels.get place)⟩

/-- The account of a redraw. -/
def redrawNotes (now : ClockReading) (s : PanelSide ℓ β) : List CallNote :=
  if (s.drawn now).hub.sign.lacks (s.picture now) then imageNotes (s.picture now) s.panels else []

/-- The account of a tick. -/
def tickNotes [Bus β] (now : ClockReading) (s : PanelSide ℓ β) : List CallNote :=
  s.relayNotes s.hub.sign.powered ++ if s.hub.sign.powered then s.attended.redrawNotes now else []

end PanelSide

/-- Calls that are made after others have been made. -/
theorem CallsMade.append {first middle last : Trio ℓ} {calls more : List CallNote}
    (h : CallsMade first calls middle) (k : CallsMade middle more last) :
    CallsMade first (calls ++ more) last := by
  induction h with
  | none _ => exact k
  | next made _ ih => exact .next made (ih k)

namespace Watched

/-! ## The relay -/

/-- A switch is noted with the answer of the link. -/
theorem switchRelay_eq (on : Bool) (w : Watched ℓ β) :
    w.switchRelay on =
      ((w.side.switchRelay on).1, ⟨(w.side.switchRelay on).2,
        w.calls ++ [⟨PanelSide.relayPlace, .relay on, (w.side.switchRelay on).1.isOk⟩]⟩) := by
  rw [switchRelay, call, PanelCall.perform, PanelSide.switchRelay]
  generalize w.side.call PanelSide.relayPlace (Link.switchRelay on) = result
  rcases result with ⟨e | ⟨⟩, s⟩ <;> rfl

/-- Keeping the relay is noted if it takes a switch. -/
theorem keepRelay_eq [Bus β] (powered : Bool) (w : Watched ℓ β) :
    w.keepRelay powered = ⟨w.side.keepRelay powered, w.calls ++ w.side.relayNotes powered⟩ := by
  rw [keepRelay, PanelSide.keepRelay, PanelSide.relayNotes]
  by_cases known : w.side.relay = some powered
  · rw [if_pos known, if_pos known, if_pos known, List.append_nil]
  · rw [if_neg known, if_neg known, if_neg known, switchRelay_eq]
    generalize w.side.switchRelay powered = result
    rcases result with ⟨e | ⟨⟩, s⟩ <;> rfl

/-! ## The bitmap -/

/-- Writing to a panel is noted with whether it accepted the bitmap. -/
theorem writePanel_eq (bitmap : Bitmap) (place : Fin 3) (w : Watched ℓ β) :
    w.writePanel bitmap place =
      ((w.side.writePanel bitmap place).1, ⟨(w.side.writePanel bitmap place).2,
        w.calls ++ [⟨place, .image bitmap, (w.side.writePanel bitmap place).1⟩]⟩) := by
  rw [writePanel, call, PanelCall.perform, PanelSide.writePanel]
  generalize w.side.call place (Link.showHalves bitmap.toList) = result
  rcases result with ⟨e | ⟨⟩, s⟩ <;> rfl

/-- Writing to all panels is noted once for each, in order. -/
theorem writePanels_eq (bitmap : Bitmap) (w : Watched ℓ β) :
    w.writePanels bitmap =
      ((w.side.writePanels bitmap).1, ⟨(w.side.writePanels bitmap).2,
        w.calls ++ PanelSide.imageNotes bitmap w.side.panels⟩) := by
  obtain ⟨hfirst, h₀⟩ := w.side.alike_writePanel bitmap 0
  obtain ⟨hsecond, h₁⟩ := (w.side.writePanel bitmap 0).2.alike_writePanel bitmap 1
  obtain ⟨hthird, -⟩ :=
    ((w.side.writePanel bitmap 0).2.writePanel bitmap 1).2.alike_writePanel bitmap 2
  -- Each panel is asked in the state that it had before the first write.
  rw [h₁.panels, h₀.panels] at hthird
  rw [h₀.panels] at hsecond
  have hnotes : PanelSide.imageNotes bitmap w.side.panels =
      [⟨0, .image bitmap, (w.side.writePanel bitmap 0).1⟩,
        ⟨1, .image bitmap, ((w.side.writePanel bitmap 0).2.writePanel bitmap 1).1⟩,
        ⟨2, .image bitmap,
          (((w.side.writePanel bitmap 0).2.writePanel bitmap 1).2.writePanel bitmap 2).1⟩] := by
    rw [hfirst, hsecond, hthird]
    rfl
  have hplaces : List.finRange 3 = ([0, 1, 2] : List (Fin 3)) := rfl
  simp only [writePanels, hplaces, List.foldl_cons, List.foldl_nil, PanelSide.writePanels,
    writePanel_eq, hnotes, List.append_assoc, List.cons_append, List.nil_append, Nat.zero_add]

theorem push_eq (bitmap : Bitmap) (w : Watched ℓ β) :
    w.push bitmap =
      ⟨w.side.push bitmap, w.calls ++ PanelSide.imageNotes bitmap w.side.panels⟩ := by
  rw [push, PanelSide.push, writePanels_eq]
  rfl

/-- A redraw is noted if the drawn bitmap is pushed. -/
theorem redraw_eq (now : ClockReading) (w : Watched ℓ β) :
    w.redraw now = ⟨w.side.redraw now, w.calls ++ w.side.redrawNotes now⟩ := by
  obtain ⟨hpicture, h⟩ := w.side.alike_draw now
  rw [redraw, PanelSide.redraw, PanelSide.redrawNotes, ← h.sign, ← hpicture]
  dsimp only
  split
  · rw [push_eq, map]
    dsimp only
    rw [h.panels]
    rfl
  · rw [List.append_nil]
    rfl

/-! ## Ticks -/

/-- A watched tick is the tick that nobody watches, with its account. -/
theorem tick_eq [Bus β] (now : ClockReading) (w : Watched ℓ β) :
    w.tick now =
      ((w.side.tick now).1, ⟨(w.side.tick now).2, w.calls ++ w.side.tickNotes now⟩) := by
  have hattended : (w.keepRelay w.side.hub.sign.powered).map
      (PanelSide.followPower w.side.hub.sign.powered) =
        ⟨w.side.attended, w.calls ++ w.side.relayNotes w.side.hub.sign.powered⟩ := by
    rw [keepRelay_eq]
    rfl
  have hdraws : w.side.attended.activity.draws = w.side.hub.sign.powered := by
    rw [w.side.attended_activity]
    cases w.side.hub.sign.powered <;> rfl
  have hplain : w.side.tick now =
      let s := if w.side.attended.activity.draws then w.side.attended.redraw now
        else w.side.attended
      (s.activity.periodMs s.hub.timings, s) := rfl
  rw [hplain, tick, PanelSide.tickNotes]
  dsimp only
  rw [hattended, hdraws]
  cases w.side.hub.sign.powered
  · simp only [Bool.false_eq_true, if_false, List.append_nil]
  · simp only [if_true, redraw_eq, List.append_assoc]

/-! ## What the calls do to the links -/

/-- The calls in the account have led from these panels to the present ones. -/
def Since (panels : Trio ℓ) (w : Watched ℓ β) : Prop := CallsMade panels w.calls w.side.panels

namespace Since

variable {panels : Trio ℓ} {w : Watched ℓ β}

/-- A call is made on the panels as the account has left them, and is noted. -/
theorem call (h : w.Since panels) (place : Fin 3) (call : PanelCall) :
    (w.call place call).2.Since panels := h.append (.next rfl (.none _))

/-- What leaves the panels alone needs no call. -/
theorem map (h : w.Since panels) {f : PanelSide ℓ β → PanelSide ℓ β}
    (hpanels : (f w.side).panels = w.side.panels) : (w.map f).Since panels := by
  have hsame : CallsMade panels w.calls (f w.side).panels := hpanels ▸ h
  exact hsame

theorem switchRelay (h : w.Since panels) (on : Bool) : (w.switchRelay on).2.Since panels := by
  have hcall := h.call PanelSide.relayPlace (.relay on)
  rw [Watched.switchRelay]
  generalize w.call PanelSide.relayPlace (.relay on) = result at hcall
  rcases result with ⟨e | ⟨⟩, w'⟩
  · exact hcall
  · exact hcall.map rfl

theorem keepRelay [Bus β] (h : w.Since panels) (powered : Bool) :
    (w.keepRelay powered).Since panels := by
  have hswitch := h.switchRelay powered
  rw [Watched.keepRelay]
  split
  · exact h
  · generalize w.switchRelay powered = result at hswitch
    rcases result with ⟨e | ⟨⟩, w'⟩
    · exact hswitch.map rfl
    · exact hswitch.map (PanelSide.alike_publishRelay _ _).panels

/-- Whether or not it succeeds, writing to a panel is one call. -/
theorem writePanel (h : w.Since panels) (bitmap : Bitmap) (place : Fin 3) :
    (w.writePanel bitmap place).2.Since panels := by
  have hcall := h.call place (.image bitmap)
  rw [Watched.writePanel]
  generalize w.call place (.image bitmap) = result at hcall
  rcases result with ⟨e | ⟨⟩, w'⟩
  · exact hcall.map rfl
  · exact hcall

theorem writePanels (h : w.Since panels) (bitmap : Bitmap) :
    (w.writePanels bitmap).2.Since panels :=
  -- A write is made after each other one, whatever that one has answered.
  ((h.writePanel bitmap 0).writePanel bitmap 1).writePanel bitmap 2

theorem push (h : w.Since panels) (bitmap : Bitmap) : (w.push bitmap).Since panels := by
  have hwritten := h.writePanels bitmap
  rw [Watched.push]
  generalize w.writePanels bitmap = result at hwritten
  obtain ⟨accepted, w'⟩ := result
  refine hwritten.map ?_
  split <;> rfl

theorem redraw (h : w.Since panels) (now : ClockReading) : (w.redraw now).Since panels := by
  have hdrawn : (w.map fun _ => ((w.side.look now).2.draw (w.side.look now).1 now).2).Since
      panels := h.map (w.side.alike_draw now).2.panels
  rw [Watched.redraw]
  dsimp only
  split
  · exact hdrawn.push _
  · exact hdrawn

/-- A tick does nothing to the panels but call them. -/
theorem tick [Bus β] (h : w.Since panels) (now : ClockReading) : (w.tick now).2.Since panels := by
  have hattended := (h.keepRelay w.side.hub.sign.powered).map
    (PanelSide.alike_followPower w.side.hub.sign.powered _).panels
  rw [Watched.tick]
  dsimp only
  split
  · exact hattended.redraw now
  · exact hattended

end Since

end Watched

/-- A tick does nothing to the links but the calls in its account. -/
theorem PanelSide.callsMade_tick [Bus β] (now : ClockReading) (s : PanelSide ℓ β) :
    CallsMade s.panels (s.tickNotes now) (s.tick now).2.panels := by
  have hsince := Watched.Since.tick (w := ⟨s, []⟩) (.none s.panels) now
  rwa [Watched.tick_eq] at hsince

end Marquee
