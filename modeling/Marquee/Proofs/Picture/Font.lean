import Marquee.Picture.Font

/-!
# Where texts are drawn

Wherever a text is drawn it is the same text, moved (`Font.pixels_move`). All that it lights lies
between its left end and its measured width (`Font.pixels_within`): measuring counts every character
and drawing starts again at each line end, so that no line is longer than what was measured. On a
plane without edges a drawing that is moved is the plane seen from elsewhere (`Plane.draw_move`).
-/

namespace Marquee

/-! ## Moved drawings -/

/-- The same pixel in another place. -/
def Raster.Pixel.move (dx dy : Int) (p : Raster.Pixel) : Raster.Pixel := ⟨p.x + dx, p.y + dy, p.on⟩

namespace Plane

/-- Drawing the same elsewhere on a plane that is moved as far. -/
theorem draw_move {plane plane' : Plane} {dx dy : Int}
    (h : ∀ x y, plane' x y = plane (x - dx) (y - dy)) (pixels : List Raster.Pixel) (x y : Int) :
    plane'.draw (pixels.map (.move dx dy)) x y = plane.draw pixels (x - dx) (y - dy) := by
  induction pixels generalizing plane plane' with
  | nil => exact h x y
  | cons p rest ih =>
    refine ih fun x y => ?_
    have hplace : (x = (p.move dx dy).x ∧ y = (p.move dx dy).y) ↔
        (x - dx = p.x ∧ y - dy = p.y) := by
      simp only [Raster.Pixel.move]
      omega
    rw [plot, plot, h, ite_cond_congr (propext hplace)]
    rfl

/-- A lit pixel of a plane was lit before or has been drawn. -/
theorem lit_of_draw {plane : Plane} {pixels : List Raster.Pixel} {x y : Int}
    (h : plane.draw pixels x y = true) :
    plane x y = true ∨ ∃ p ∈ pixels, p.x = x ∧ p.y = y := by
  induction pixels generalizing plane with
  | nil => exact .inl h
  | cons p rest ih =>
    rcases ih h with hlit | ⟨q, hq, hplace⟩
    · by_cases hp : x = p.x ∧ y = p.y
      · exact .inr ⟨p, List.mem_cons_self, hp.1.symm, hp.2.symm⟩
      · rw [plot, if_neg hp] at hlit
        exact .inl hlit
    · exact .inr ⟨q, List.mem_cons_of_mem _ hq, hplace⟩

end Plane

namespace Font

variable (f : Font)

/-! ## A text in another place -/

/-- A line that is drawn elsewhere has its pixels moved. -/
theorem linePixels_move (x y dx dy : Int) (line : List Char) :
    f.linePixels (x + dx) (y + dy) line = (f.linePixels x y line).map (.move dx dy) := by
  induction line generalizing x with
  | nil => rfl
  | cons c rest ih =>
    have hcell : (f.cell c).map (fun place => (⟨x + dx + place.1, y + dy + place.2, true⟩ :
          Raster.Pixel)) =
        ((f.cell c).map fun place => (⟨x + place.1, y + place.2, true⟩ : Raster.Pixel)).map
          (.move dx dy) := by
      rw [List.map_map]
      refine List.map_congr_left fun place _ => ?_
      simp only [Function.comp_apply, Raster.Pixel.move, Raster.Pixel.mk.injEq, and_true]
      omega
    rw [linePixels, linePixels, List.map_append, hcell, ← ih, Int.add_right_comm]

theorem linesPixels_move (x y dx dy : Int) (lines : List (List Char)) :
    f.linesPixels (x + dx) (y + dy) lines = (f.linesPixels x y lines).map (.move dx dy) := by
  induction lines generalizing y with
  | nil => rfl
  | cons line rest ih =>
    rw [linesPixels, linesPixels, List.map_append, linePixels_move, ← ih, Int.add_right_comm]

/-- A text drawn elsewhere is the text, moved. -/
theorem pixels_move (text : String) (x y dx dy : Int) :
    f.pixels text (x + dx) (y + dy) = (f.pixels text x y).map (.move dx dy) :=
  f.linesPixels_move x y dx dy _

/-! ## The width of a text -/

theorem length_le_of_mem_splitLines {text line : List Char} (h : line ∈ splitLines text) :
    line.length ≤ text.length := by
  induction text generalizing line with
  | nil =>
    obtain rfl := List.mem_singleton.mp h
    exact Nat.le_refl _
  | cons c rest ih =>
    rw [splitLines] at h
    split at h
    · rcases List.mem_cons.mp h with rfl | h
      · exact Nat.zero_le _
      · exact Nat.le_succ_of_le (ih h)
    · split at h
      · rename_i first lines hsplit
        rcases List.mem_cons.mp h with rfl | h
        · exact Nat.succ_le_succ (ih (hsplit ▸ List.mem_cons_self))
        · exact Nat.le_succ_of_le (ih (hsplit ▸ List.mem_cons_of_mem _ h))
      · obtain rfl := List.mem_singleton.mp h
        exact Nat.succ_le_succ (Nat.zero_le _)

theorem length_trimReturn_le (line : List Char) : (trimReturn line).length ≤ line.length := by
  rw [trimReturn]
  split
  · rw [List.length_dropLast]
    exact Nat.sub_le _ _
  · exact Nat.le_refl _

theorem mem_cell {f : Font} {c : Char} {place : Nat × Nat} (h : place ∈ f.cell c) :
    place.1 < f.width ∧ place.2 < f.height := by
  obtain ⟨column, hcolumn, hplace⟩ := List.mem_flatMap.mp h
  obtain ⟨row, hrow, rfl⟩ := List.mem_map.mp hplace
  exact ⟨List.mem_range.mp hcolumn, List.mem_range.mp (List.mem_filter.mp hrow).1⟩

variable {f}

/-- A line lights no more columns than its characters have. -/
theorem linePixels_within {x y : Int} {line : List Char} {p : Raster.Pixel}
    (h : p ∈ f.linePixels x y line) : x ≤ p.x ∧ p.x < x + line.length * f.width := by
  induction line generalizing x with
  | nil => cases h
  | cons c rest ih =>
    have hlength : ((c :: rest).length * f.width : Int) = rest.length * f.width + f.width := by
      rw [List.length_cons, Int.natCast_add, Int.add_mul, Int.natCast_one, Int.one_mul]
    have hrest : (0 : Int) ≤ rest.length * f.width :=
      Int.mul_nonneg (Int.natCast_nonneg _) (Int.natCast_nonneg _)
    rw [hlength]
    rcases List.mem_append.mp h with h | h
    · obtain ⟨place, hplace, rfl⟩ := List.mem_map.mp h
      have hinside := (mem_cell hplace).1
      dsimp only
      omega
    · have hinside := ih h
      omega

theorem linesPixels_within {x y : Int} {lines : List (List Char)} {width : Nat}
    (hwidth : ∀ line ∈ lines, line.length * f.width ≤ width) {p : Raster.Pixel}
    (h : p ∈ f.linesPixels x y lines) : x ≤ p.x ∧ p.x < x + width := by
  induction lines generalizing y with
  | nil => cases h
  | cons line rest ih =>
    rcases List.mem_append.mp h with h | h
    · have hinside := linePixels_within h
      have htrim := Nat.mul_le_mul_right f.width (length_trimReturn_le line)
      have hline := hwidth line List.mem_cons_self
      have hcast : ((trimReturn line).length * f.width : Int) ≤ width := by
        exact_mod_cast Nat.le_trans htrim hline
      omega
    · exact ih (fun line hline => hwidth line (List.mem_cons_of_mem _ hline)) h

/-- A text lights nothing to the left of where it starts, and nothing at its measured width or to
the right of it. -/
theorem pixels_within {text : String} {x y : Int} {p : Raster.Pixel} (h : p ∈ f.pixels text x y) :
    x ≤ p.x ∧ p.x < x + f.textWidth text := by
  refine linesPixels_within (fun line hline => ?_) h
  rw [textWidth, ← String.length_toList]
  exact Nat.mul_le_mul_right _ (length_le_of_mem_splitLines hline)

/-- A text lights nothing outside of its own width. -/
theorem strip_within {text : String} {x y : Int} (h : f.strip text x y = true) :
    0 ≤ x ∧ x < f.textWidth text := by
  rcases Plane.lit_of_draw h with hdark | ⟨p, hp, rfl, rfl⟩
  · cases hdark
  · have hinside := pixels_within hp
    omega

/-- A text drawn on a dark plane at any place is its strip, seen from there. -/
theorem draw_pixels (text : String) (x y column row : Int) :
    Plane.dark.draw (f.pixels text x y) column row = f.strip text (column - x) (row - y) := by
  have hpixels := f.pixels_move text 0 0 x y
  rw [Int.zero_add, Int.zero_add] at hpixels
  have hdark : ∀ column row, Plane.dark column row = Plane.dark (column - x) (row - y) :=
    fun _ _ => rfl
  rw [hpixels]
  exact Plane.draw_move hdark _ column row

end Font

end Marquee
