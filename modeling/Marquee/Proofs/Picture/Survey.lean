import Marquee.Picture.Raster
import Marquee.Picture.Window
import Marquee.Proofs.Picture.Window

/-!
# A window asks for nothing outside its picture

A picture whose width and height are machine words can be read in machine words from any corner:
no sum breaks the reading off, the columns are those of the window, and every place on record lies
inside the picture (`Survey.columns_eq`, `Survey.mem_places`). Together with the columns bit by bit
this is all there is to say of a window (`window_exact`).
-/

namespace Marquee

namespace Survey

/-! ## Work in a row -/

section Series

variable {α β δ : Type}

theorem bind_of_some {work : Survey α} {next : α → Survey β} {asked asked' : List Place} {a : α}
    (h : work asked = some (a, asked')) : (work >>= next) asked = next a asked' := by
  change (work asked).bind _ = _
  rw [h]
  rfl

/-- Steps that each add their places to the record add them in a row. -/
theorem foldlM_of_forall {step : β → α → Survey β} {value : β → α → β} {places : α → List Place}
    {l : List α} (h : ∀ b, ∀ a ∈ l, ∀ asked, step b a asked = some (value b a, asked ++ places a))
    (b : β) (asked : List Place) :
    l.foldlM step b asked = some (l.foldl value b, asked ++ l.flatMap places) := by
  induction l generalizing b asked with
  | nil => rw [List.foldlM_nil, List.flatMap_nil, List.append_nil]; rfl
  | cons a rest ih =>
    rw [List.foldlM_cons, bind_of_some (h b a List.mem_cons_self asked),
      ih (fun b a ha => h b a (List.mem_cons_of_mem _ ha)), List.foldl_cons, List.flatMap_cons,
      List.append_assoc]

theorem mapM_of_forall {step : α → Survey β} {value : α → β} {places : α → List Place}
    {l : List α} (h : ∀ a ∈ l, ∀ asked, step a asked = some (value a, asked ++ places a))
    (asked : List Place) :
    l.mapM step asked = some (l.map value, asked ++ l.flatMap places) := by
  induction l generalizing asked with
  | nil => rw [List.mapM_nil, List.flatMap_nil, List.append_nil]; rfl
  | cons a rest ih =>
    rw [List.mapM_cons, bind_of_some (h a List.mem_cons_self asked),
      bind_of_some (ih (fun a ha => h a (List.mem_cons_of_mem _ ha)) _), List.flatMap_cons,
      ← List.append_assoc]
    rfl

end Series

/-! ## The reading of a window -/

theorem sum_of_fits {a b : UInt64} (fits : a.toNat + b.toNat < UInt64.size) (asked : List Place) :
    sum a b asked = some (a + b, asked) := if_pos fits

variable {γ : Type} [Picture γ] {picture : γ} {x y : UInt64} {i row : Nat}

/-- The place of a pixel of a window, seen from the corner. -/
def placeAt (x y : UInt64) (i row : Nat) : Place := ⟨x + .ofNat i, y + .ofNat row⟩

theorem toNat_add_ofNat {a : UInt64} {n : Nat} (fits : a.toNat + n < UInt64.size) :
    (a + .ofNat n).toNat = a.toNat + n := by
  unfold UInt64.size at fits
  simp only [UInt64.toNat_add, UInt64.toNat_ofNat']
  omega

theorem addRow_of_fits (hcolumn : x.toNat + i < UInt64.size) (hrow : y.toNat + row < UInt64.size)
    (byte : UInt8) (asked : List Place) :
    addRow picture x y i byte row asked =
      some (if Picture.get picture (x.toNat + i) (y.toNat + row) then
          byte ||| (1 <<< UInt8.ofNat (7 - row)) else byte,
        asked ++ [placeAt x y i row]) := by
  have hi : (UInt64.ofNat i).toNat = i := UInt64.toNat_ofNat_of_lt' (by omega)
  have hr : (UInt64.ofNat row).toNat = row := UInt64.toNat_ofNat_of_lt' (by omega)
  have hask : ask picture (x + .ofNat i) (y + .ofNat row) asked =
      some (Picture.get picture (x.toNat + i) (y.toNat + row), asked ++ [placeAt x y i row]) := by
    rw [ask, toNat_add_ofNat hcolumn, toNat_add_ofNat hrow, placeAt]
  rw [addRow, bind_of_some (sum_of_fits (by rw [hi]; exact hcolumn) asked),
    bind_of_some (sum_of_fits (by rw [hr]; exact hrow) asked), bind_of_some hask]
  rfl

/-- The places of all pixels of a window, column by column. -/
def places (picture : γ) (x y : UInt64) : List Place :=
  (List.range (min (Picture.width picture - x.toNat) panelWidth)).flatMap fun i =>
    (List.range (min (Picture.height picture - y.toNat) panelHeight)).map (placeAt x y i)

variable (hwidth : Picture.width picture < UInt64.size)
  (hheight : Picture.height picture < UInt64.size)

include hwidth hheight

/-- Nothing breaks the reading of a window off, and it brings the columns of the window. -/
theorem columns_eq (asked : List Place) :
    columns picture x y asked =
      some (columnsAt picture x.toNat y.toNat, asked ++ places picture x y) := by
  have hbyte : ∀ i ∈ List.range (min (Picture.width picture - x.toNat) panelWidth), ∀ asked,
      (List.range (min (Picture.height picture - y.toNat) panelHeight)).foldlM
          (addRow picture x y i) 0 asked =
        some (columnByte (min (Picture.height picture - y.toNat) panelHeight) fun row =>
            Picture.get picture (x.toNat + i) (y.toNat + row),
          asked ++ (List.range (min (Picture.height picture - y.toNat) panelHeight)).map
            (placeAt x y i)) := by
    intro i hi asked
    rw [List.mem_range] at hi
    rw [List.map_eq_flatMap, columnByte]
    have hrows : ∀ byte, ∀ row ∈ List.range (min (Picture.height picture - y.toNat) panelHeight),
        ∀ asked, addRow picture x y i byte row asked =
          some (if Picture.get picture (x.toNat + i) (y.toNat + row) then
              byte ||| (1 <<< UInt8.ofNat (7 - row)) else byte,
            asked ++ [placeAt x y i row]) := by
      intro byte row hrow asked
      rw [List.mem_range] at hrow
      exact addRow_of_fits (by omega) (by omega) byte asked
    exact foldlM_of_forall hrows 0 asked
  exact mapM_of_forall hbyte asked

/-- The places of a window lie inside the picture, as far from the corner as is counted. -/
theorem mem_places {place : Place} (h : place ∈ places picture x y) :
    ∃ i row, place.column.toNat = x.toNat + i ∧ place.row.toNat = y.toNat + row ∧
      x.toNat + i < Picture.width picture ∧ y.toNat + row < Picture.height picture := by
  obtain ⟨i, hi, hplace⟩ := List.mem_flatMap.mp h
  obtain ⟨row, hrow, rfl⟩ := List.mem_map.mp hplace
  rw [List.mem_range] at hi hrow
  exact ⟨i, row, toNat_add_ofNat (by omega), toNat_add_ofNat (by omega), by omega, by omega⟩

end Survey

/-- A window of any picture at any corner has one byte for each column that the picture still has
there, up to the width of a panel. Bit `7 - row` of a byte is set exactly if the panel has this row,
the picture has this pixel and the pixel is lit; the lowest bit never is. Read in machine words, no
sum of coordinates overflows and the picture is asked for nothing outside its edges. The whole
bitmap has zeros after these bytes. -/
theorem window_exact {γ : Type} [Picture γ] (picture : γ) (x y : UInt64)
    (hwidth : Picture.width picture < UInt64.size)
    (hheight : Picture.height picture < UInt64.size) :
    let bytes := columnsAt picture x.toNat y.toNat
    bytes.length = min (Picture.width picture - x.toNat) panelWidth ∧
      (∀ i (hi : i < bytes.length), ∀ row ≤ 7,
        bytes[i].toNat.testBit (7 - row) = true ↔
          row < 7 ∧ x.toNat + i < Picture.width picture ∧
            y.toNat + row < Picture.height picture ∧
            Picture.get picture (x.toNat + i) (y.toNat + row) = true) ∧
      (∀ byte ∈ bytes, byte.toNat.testBit 0 = false) ∧
      (∃ asked, Survey.columns picture x y [] = some (bytes, asked) ∧
        ∀ place ∈ asked, ∃ i row,
          place.column.toNat = x.toNat + i ∧ place.row.toNat = y.toNat + row ∧
            x.toNat + i < Picture.width picture ∧ y.toNat + row < Picture.height picture) ∧
      (windowAt picture x.toNat y.toNat).toList =
        bytes ++ List.replicate (panelWidth - bytes.length) 0 := by
  intro bytes
  refine ⟨length_columnsAt picture _ _, fun i hi row hrow => testBit_columnsAt picture _ _ hi hrow,
    ?_, ?_, windowAt_toList picture _ _⟩
  · intro byte hbyte
    obtain ⟨i, hi, rfl⟩ := List.getElem_of_mem hbyte
    rw [← Bool.not_eq_true]
    intro hset
    exact absurd ((testBit_columnsAt picture _ _ hi (Nat.le_refl 7)).mp hset).1 (by decide)
  · exact ⟨_, Survey.columns_eq hwidth hheight [], fun place hplace =>
      Survey.mem_places hwidth hheight hplace⟩

/-- The last pixel of an image of 130 columns and eight rows, seen from a corner two columns and
five rows before its edges. -/
theorem window_exact_last_pixel :
    let picture := (Raster.dark 130 8).set 129 7 true
    Picture.width picture < UInt64.size ∧ Picture.height picture < UInt64.size ∧
      (∃ asked, Survey.columns picture 128 3 [] = some ([0, 8], asked) ∧
        ∀ place ∈ asked, place.column.toNat < 130 ∧ place.row.toNat < 8) ∧
      (windowAt picture 128 3).toList = [0, 8] ++ List.replicate 118 0 := by
  intro picture
  have hbytes : columnsAt picture 128 3 = [0, 8] := by decide +kernel
  obtain ⟨-, -, -, ⟨asked, hasked, hinside⟩, hwindow⟩ :=
    window_exact picture 128 3 (by decide) (by decide)
  refine ⟨by decide, by decide, ⟨asked, hasked.trans (by rw [← hbytes]; rfl), ?_⟩, ?_⟩
  · intro place hplace
    obtain ⟨i, row, hcolumn, hrow, hwidth, hheight⟩ := hinside place hplace
    exact ⟨hcolumn ▸ hwidth, hrow ▸ hheight⟩
  · change (windowAt picture 128 3).toList = columnsAt picture 128 3 ++
      List.replicate (panelWidth - (columnsAt picture 128 3).length) 0 at hwindow
    rw [hwindow, hbytes]
    rfl

end Marquee
