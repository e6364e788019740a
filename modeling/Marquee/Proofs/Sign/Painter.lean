import Marquee.Sign.Painter

/-!
# The painter's memory

A painter gives back the last picture of a kind where it would have to draw the same one again.
As long as everything it remembers is the picture of what it says (`Painter.Faithful`), nobody can
tell: whatever it was asked for before, it draws what a new painter would draw (`paintings_fresh`).
Only the picture before the exchange of lit and dark is remembered, so that an inverted picture is
never taken for another.
-/

namespace Marquee

/-- The picture of a view, with the clock face for a sign without a message. -/
def SignView.bitmap (view : SignView) (face : ClockFace) : Bitmap :=
  let bitmap :=
    match view.message with
    | some message => ScrolledText.bitmap message.text message.shift
    | none => face.bitmap
  if view.inverted then bitmap.complement else bitmap

/-- The picture that is asked for. -/
def PaintRequest.bitmap : PaintRequest → Bitmap
  | .clock face => face.bitmap
  | .message wanted => ScrolledText.bitmap wanted.text wanted.shift
  | .view wanted face => wanted.bitmap face

/-- Lit and dark pixels exchanged make another bitmap. -/
theorem Bitmap.complement_ne (bitmap : Bitmap) : bitmap.complement ≠ bitmap := by
  obtain ⟨bytes, hlength⟩ := bitmap
  intro h
  have hlist : bytes.map (~~~ ·) = bytes := congrArg Bytes.toList h
  cases bytes with
  | nil => exact absurd hlength (by decide)
  | cons byte rest =>
    have hbyte : ~~~byte = byte := (List.cons.inj hlist).1
    have hbit := congrArg (fun b => b.toBitVec.getLsbD 0) hbyte
    simp at hbit

namespace Painter

/-- Everything that is remembered is the picture of what it says. -/
structure Faithful (p : Painter) : Prop where
  /-- the clock face -/
  clock : ∀ painted, p.clock = some painted → painted.bitmap = painted.face.bitmap
  /-- the message -/
  message : ∀ painted, p.message = some painted →
    painted.bitmap = ScrolledText.bitmap painted.text painted.shift

theorem faithful_new : new.Faithful where
  clock _ h := absurd h.symm (Option.some_ne_none _)
  message _ h := absurd h.symm (Option.some_ne_none _)

namespace Faithful

variable {p : Painter}

theorem drawClock (h : p.Faithful) (face : ClockFace) :
    (p.drawClock face).1 = face.bitmap ∧ (p.drawClock face).2.Faithful := by
  rw [Painter.drawClock]
  cases hit : p.clock.filter fun painted => painted.face == face with
  | none =>
    refine ⟨rfl, ⟨fun painted hpainted => ?_, h.message⟩⟩
    obtain rfl := Option.some.inj hpainted
    rfl
  | some painted =>
    obtain ⟨hpainted, hface⟩ := Option.filter_eq_some_iff.mp hit
    refine ⟨?_, h⟩
    rw [← eq_of_beq hface]
    exact h.clock painted hpainted

theorem drawMessage (h : p.Faithful) (message : ScrolledText) :
    (p.drawMessage message).1 = ScrolledText.bitmap message.text message.shift ∧
      (p.drawMessage message).2.Faithful := by
  rw [Painter.drawMessage]
  dsimp only
  cases hit : p.message.filter fun painted =>
      painted.shift == message.shift && painted.text == message.text with
  | none =>
    refine ⟨rfl, ⟨h.clock, fun painted hpainted => ?_⟩⟩
    obtain rfl := Option.some.inj hpainted
    rfl
  | some painted =>
    obtain ⟨hpainted, hsame⟩ := Option.filter_eq_some_iff.mp hit
    obtain ⟨hshift, htext⟩ := Bool.and_eq_true_iff.mp hsame
    refine ⟨?_, h⟩
    rw [← eq_of_beq hshift, ← eq_of_beq htext]
    exact h.message painted hpainted

/-- A faithful painter draws the picture of a view, and stays faithful. -/
theorem draw (h : p.Faithful) (view : SignView) (face : ClockFace) :
    (p.draw view face).1 = view.bitmap face ∧ (p.draw view face).2.Faithful := by
  rw [Painter.draw, SignView.bitmap]
  cases view.message with
  | none =>
    obtain ⟨hbitmap, hfaithful⟩ := h.drawClock face
    refine ⟨?_, hfaithful⟩
    dsimp only
    rw [hbitmap]
  | some message =>
    obtain ⟨hbitmap, hfaithful⟩ := h.drawMessage message
    refine ⟨?_, hfaithful⟩
    dsimp only
    rw [hbitmap]

theorem paint (h : p.Faithful) (request : PaintRequest) :
    (p.paint request).1 = request.bitmap ∧ (p.paint request).2.Faithful := by
  cases request with
  | clock face => exact h.drawClock face
  | message message => exact h.drawMessage message
  | view view face => exact h.draw view face

/-- A faithful painter draws every picture that it is asked for, and stays faithful. -/
theorem paintAll (h : p.Faithful) (requests : List PaintRequest) :
    (p.paintAll requests).1 = requests.map PaintRequest.bitmap ∧
      (p.paintAll requests).2.Faithful := by
  induction requests generalizing p with
  | nil => exact ⟨rfl, h⟩
  | cons request rest ih =>
    obtain ⟨hbitmap, hfaithful⟩ := h.paint request
    obtain ⟨hbitmaps, hfaithful'⟩ := ih hfaithful
    refine ⟨?_, hfaithful'⟩
    rw [List.map_cons, ← hbitmap, ← hbitmaps]
    rfl

end Faithful

/-- Lit and dark are exchanged after the painter has remembered its picture. -/
theorem draw_inverted (message : Option ScrolledText) (face : ClockFace) (p : Painter) :
    p.draw ⟨true, message⟩ face =
      ((p.draw ⟨false, message⟩ face).1.complement, (p.draw ⟨false, message⟩ face).2) := by
  cases message <;> rfl

end Painter

/-- Whatever clock faces, messages and views a painter is asked for one after another, each time it
draws what a new painter would draw. An inverted view is drawn as the complement of the other,
byte by byte, and leaves the painter with the same memory, which has no inverted picture in it. -/
theorem paintings_fresh (requests : List PaintRequest) :
    (Painter.new.paintAll requests).1 =
        requests.map (fun request => (Painter.new.paint request).1) ∧
      (Painter.new.paintAll requests).2.Faithful ∧
      ∀ (message : Option ScrolledText) (face : ClockFace),
        let p := (Painter.new.paintAll requests).2
        (p.draw ⟨true, message⟩ face).1.toList =
            (p.draw ⟨false, message⟩ face).1.toList.map (~~~ ·) ∧
          (p.draw ⟨true, message⟩ face).2 = (p.draw ⟨false, message⟩ face).2 := by
  obtain ⟨hbitmaps, hfaithful⟩ := Painter.faithful_new.paintAll requests
  refine ⟨?_, hfaithful, ?_⟩
  · have fresh (request : PaintRequest) : (Painter.new.paint request).1 = request.bitmap :=
      (Painter.faithful_new.paint request).1
    rw [hbitmaps]
    exact (List.map_congr_left fun request _ => fresh request).symm
  · intro message face p
    rw [p.draw_inverted]
    exact ⟨rfl, rfl⟩

end Marquee
