import Marquee.Picture.Packed
import Marquee.Picture.Font

/-!
# What a drawing leaves behind

A place shows what was written there last, and what it showed before if nothing was written there
(`Plane.draw_eq`). Where a pixel depends on its place alone, as in a text or in the picture of a
bitmap, the order of drawing does not matter (`Plane.draw_of_mem`).
-/

namespace Marquee

namespace Raster

variable {p : Pixel} {pixels : List Pixel} {x y : Int}

theorem lastWritten?_cons (p : Pixel) (pixels : List Pixel) (x y : Int) :
    lastWritten? (p :: pixels) x y =
      (lastWritten? pixels x y).or (if x = p.x ∧ y = p.y then some p.on else none) := by
  rw [lastWritten?, List.reverse_cons, List.find?_append, lastWritten?]
  cases pixels.reverse.find? fun p => p.x = x ∧ p.y = y with
  | some q => rfl
  | none =>
    by_cases hplace : x = p.x ∧ y = p.y
    · simp [hplace]
    · have hplace' : ¬(p.x = x ∧ p.y = y) := fun h => hplace ⟨h.1.symm, h.2.symm⟩
      simp [hplace, hplace']

theorem lastWritten?_eq_none (h : ∀ p ∈ pixels, ¬(p.x = x ∧ p.y = y)) :
    lastWritten? pixels x y = none := by
  rw [lastWritten?, Option.map_eq_none_iff, List.find?_eq_none]
  intro p hp hplace
  exact h p (List.mem_reverse.mp hp) (of_decide_eq_true hplace)

theorem exists_lastWritten? (h : ∃ p ∈ pixels, p.x = x ∧ p.y = y) :
    ∃ p ∈ pixels, (p.x = x ∧ p.y = y) ∧ lastWritten? pixels x y = some p.on := by
  obtain ⟨q, hq, hplace⟩ := h
  cases hfind : pixels.reverse.find? fun p => p.x = x ∧ p.y = y with
  | none =>
    rw [List.find?_eq_none] at hfind
    exact absurd (decide_eq_true hplace) (hfind q (List.mem_reverse.mpr hq))
  | some p =>
    have hp : p ∈ pixels := List.mem_reverse.mp (List.mem_of_find?_eq_some hfind)
    have hfound := List.find?_some hfind
    rw [decide_eq_true_iff] at hfound
    refine ⟨p, hp, hfound, ?_⟩
    rw [lastWritten?, hfind, Option.map_some]

end Raster

namespace Plane

variable {pixels : List Raster.Pixel} {x y : Int}

theorem draw_eq (plane : Plane) (pixels : List Raster.Pixel) (x y : Int) :
    plane.draw pixels x y = (Raster.lastWritten? pixels x y).getD (plane x y) := by
  induction pixels generalizing plane with
  | nil => rfl
  | cons p rest ih =>
    have hdraw : plane.draw (p :: rest) = (plane.plot p).draw rest := rfl
    rw [hdraw, ih, Raster.lastWritten?_cons, plot]
    cases Raster.lastWritten? rest x y with
    | some on => rfl
    | none => by_cases hplace : x = p.x ∧ y = p.y <;> simp [hplace]

/-- Where nothing is drawn the plane stays as it was. -/
theorem draw_of_not_mem (plane : Plane) (h : ∀ p ∈ pixels, ¬(p.x = x ∧ p.y = y)) :
    plane.draw pixels x y = plane x y := by
  rw [draw_eq, Raster.lastWritten?_eq_none h, Option.getD_none]

/-- Where all pixels are drawn as their place says, so is this one. -/
theorem draw_of_mem (plane value : Plane) (hvalue : ∀ p ∈ pixels, p.on = value p.x p.y)
    (h : ∃ p ∈ pixels, p.x = x ∧ p.y = y) : plane.draw pixels x y = value x y := by
  obtain ⟨p, hp, ⟨rfl, rfl⟩, hlast⟩ := Raster.exists_lastWritten? h
  rw [draw_eq, hlast, Option.getD_some, hvalue p hp]

end Plane

end Marquee
