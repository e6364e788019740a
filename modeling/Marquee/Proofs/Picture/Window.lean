import Marquee.Picture.Window

/-!
# Columns of a window, bit by bit

The byte of a column carries row `r` in bit `7 - r` (`testBit_columnByte`), so that with seven rows
or fewer the lowest bit stays dark. A window has as many columns as the picture still has from its
corner on, and no more than a panel (`length_columnsAt`); each bit of them is a pixel of the picture
or beyond its edge (`testBit_columnsAt`). A whole bitmap is these columns and then dark ones
(`windowAt_toList`).
-/

namespace Marquee

/-! ## One column -/

theorem testBit_one_shiftLeft {bit : Nat} (h : bit < 8) (other : Nat) :
    ((1 : UInt8) <<< UInt8.ofNat bit).toNat.testBit other = decide (bit = other) := by
  have hpow : ∀ bit < 8, ((1 : UInt8) <<< UInt8.ofNat bit).toNat = 2 ^ bit := by decide
  rw [hpow bit h, Nat.testBit_two_pow]

/-- Lighting one more row sets its bit and no other. -/
theorem columnByte_succ (height : Nat) (lit : Nat → Bool) :
    columnByte (height + 1) lit =
      if lit height then columnByte height lit ||| (1 <<< UInt8.ofNat (7 - height))
      else columnByte height lit := by
  rw [columnByte, List.range_succ, List.foldl_append]
  rfl

theorem testBit_columnByte (height : Nat) (lit : Nat → Bool) (bit : Nat) :
    (columnByte height lit).toNat.testBit bit = true ↔
      ∃ row < height, 7 - row = bit ∧ lit row = true := by
  induction height with
  | zero =>
    rw [show columnByte 0 lit = 0 from rfl]
    simp
  | succ height ih =>
    rw [columnByte_succ]
    cases hlit : lit height with
    | false =>
      rw [if_neg (by decide), ih]
      constructor
      · rintro ⟨row, hrow, hbit⟩
        exact ⟨row, by omega, hbit⟩
      · rintro ⟨row, hrow, hbit, hon⟩
        rcases Nat.lt_succ_iff_lt_or_eq.mp hrow with hlt | rfl
        · exact ⟨row, hlt, hbit, hon⟩
        · rw [hlit] at hon
          cases hon
    | true =>
      rw [if_pos rfl, UInt8.toNat_or, Nat.testBit_or, Bool.or_eq_true, ih,
        testBit_one_shiftLeft (by omega), decide_eq_true_iff]
      constructor
      · rintro (⟨row, hrow, hbit⟩ | hbit)
        · exact ⟨row, by omega, hbit⟩
        · exact ⟨height, by omega, hbit, hlit⟩
      · rintro ⟨row, hrow, hbit, hon⟩
        rcases Nat.lt_succ_iff_lt_or_eq.mp hrow with hlt | rfl
        · exact .inl ⟨row, hlt, hbit, hon⟩
        · exact .inr hbit

/-- A row of a column that is no higher than a panel stands in a bit of its own. -/
theorem testBit_columnByte_row {height : Nat} (low : height ≤ panelHeight) (lit : Nat → Bool)
    {row : Nat} (hrow : row ≤ 7) :
    (columnByte height lit).toNat.testBit (7 - row) = (decide (row < height) && lit row) := by
  unfold panelHeight at low
  rw [Bool.eq_iff_iff, testBit_columnByte, Bool.and_eq_true, decide_eq_true_iff]
  constructor
  · rintro ⟨other, hother, hbit, hon⟩
    obtain rfl : other = row := by omega
    exact ⟨hother, hon⟩
  · rintro ⟨hlt, hon⟩
    exact ⟨row, hlt, rfl, hon⟩

/-- Columns with the same rows are the same. -/
theorem columnByte_congr {height : Nat} {lit lit' : Nat → Bool}
    (h : ∀ row < height, lit row = lit' row) : columnByte height lit = columnByte height lit' := by
  induction height with
  | zero => rfl
  | succ height ih =>
    rw [columnByte_succ, columnByte_succ, h height (by omega),
      ih fun row hrow => h row (by omega)]

/-- A column without a lit row is dark. -/
theorem columnByte_dark {height : Nat} {lit : Nat → Bool} (h : ∀ row < height, lit row = false) :
    columnByte height lit = 0 := by
  induction height with
  | zero => rfl
  | succ height ih =>
    rw [columnByte_succ, h height (by omega), if_neg (by decide)]
    exact ih fun row hrow => h row (by omega)

/-- Rows past which a column is dark may be counted or not. -/
theorem columnByte_min {height past : Nat} {lit : Nat → Bool}
    (h : ∀ row, past ≤ row → lit row = false) :
    columnByte (min past height) lit = columnByte height lit := by
  refine UInt8.toNat_inj.mp (Nat.eq_of_testBit_eq fun bit => ?_)
  rw [Bool.eq_iff_iff, testBit_columnByte, testBit_columnByte]
  constructor
  · rintro ⟨row, hrow, hbit, hon⟩
    exact ⟨row, by omega, hbit, hon⟩
  · rintro ⟨row, hrow, hbit, hon⟩
    rcases Nat.lt_or_ge row past with hlt | hge
    · exact ⟨row, by omega, hbit, hon⟩
    · rw [h row hge] at hon
      cases hon

/-! ## The columns of a window -/

section Columns

variable {γ : Type} [Picture γ] (picture : γ) (x y : Nat)

theorem length_columnsAt :
    (columnsAt picture x y).length = min (Picture.width picture - x) panelWidth := by
  rw [columnsAt, List.length_map, List.length_range]

theorem length_columnsAt_le : (columnsAt picture x y).length ≤ panelWidth := by
  rw [length_columnsAt]
  exact Nat.min_le_right _ _

theorem getElem_columnsAt {i : Nat} (hi : i < (columnsAt picture x y).length) :
    (columnsAt picture x y)[i] =
      columnByte (min (Picture.height picture - y) panelHeight) fun row =>
        Picture.get picture (x + i) (y + row) := by
  simp only [columnsAt, List.getElem_map, List.getElem_range]

/-- Each bit of a column is the pixel of the picture in its place, and dark where the panel has no
row or the picture no pixel. -/
theorem testBit_columnsAt {i : Nat} (hi : i < (columnsAt picture x y).length) {row : Nat}
    (hrow : row ≤ 7) :
    ((columnsAt picture x y)[i]).toNat.testBit (7 - row) = true ↔
      row < panelHeight ∧ x + i < Picture.width picture ∧ y + row < Picture.height picture ∧
        Picture.get picture (x + i) (y + row) = true := by
  have hwidth : x + i < Picture.width picture := by
    rw [length_columnsAt] at hi
    omega
  rw [getElem_columnsAt, testBit_columnByte_row (Nat.min_le_right _ _) _ hrow, Bool.and_eq_true,
    decide_eq_true_iff]
  constructor
  · rintro ⟨hheight, hon⟩
    exact ⟨by omega, hwidth, by omega, hon⟩
  · rintro ⟨hpanel, -, hheight, hon⟩
    exact ⟨by omega, hon⟩

/-- A whole bitmap is the columns of the window and dark columns after them. -/
theorem windowAt_toList :
    (windowAt picture x y).toList =
      columnsAt picture x y ++
        List.replicate (panelWidth - (columnsAt picture x y).length) 0 := by
  rw [windowAt, Bytes.toList_padded, List.take_of_length_le (length_columnsAt_le picture x y)]

/-- The bitmap of a picture as wide as a panel has its columns. -/
theorem toList_windowAt_wide (hwidth : Picture.width picture = panelWidth) :
    (windowAt picture 0 0).toList =
      (List.range panelWidth).map fun i =>
        columnByte (min (Picture.height picture) panelHeight) (Picture.get picture i) := by
  have hcolumns : columnsAt picture 0 0 =
      (List.range panelWidth).map fun i =>
        columnByte (min (Picture.height picture) panelHeight) (Picture.get picture i) := by
    rw [columnsAt, hwidth, Nat.sub_zero, Nat.sub_zero, Nat.min_self]
    simp only [Nat.zero_add]
  rw [windowAt_toList, hcolumns, List.length_map, List.length_range, Nat.sub_self,
    List.replicate_zero, List.append_nil]

end Columns

end Marquee
