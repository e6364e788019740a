import Marquee.Proofs.Text.Utf8

/-!
# Cut texts

The beginning of a text that `fit` keeps is the longest one within the budget that ends between two
characters (`longest_fit`). Cut in this way a text is a text still, so that its bytes are read back
without a loss, by the lenient reader too (`ofUtf8Lossy_utf8`).
-/

namespace Marquee.Text

/-! ## The longest beginning within a budget -/

theorem byteCount_ofList_cons (c : Char) (rest : List Char) :
    byteCount (String.ofList (c :: rest)) = c.utf8Size + byteCount (String.ofList rest) := by
  rw [byteCount, String.ofList_cons, String.utf8ByteSize_append, String.utf8ByteSize_singleton]
  rfl

theorem fitting_begins (budget : Nat) (chars : List Char) : fitting budget chars <+: chars := by
  induction chars generalizing budget with
  | nil => exact List.prefix_rfl
  | cons c rest ih =>
    rw [fitting]
    split
    · exact List.cons_prefix_cons.mpr ⟨rfl, ih _⟩
    · exact List.nil_prefix

theorem byteCount_fitting_le (budget : Nat) (chars : List Char) :
    byteCount (String.ofList (fitting budget chars)) ≤ budget := by
  induction chars generalizing budget with
  | nil => exact Nat.zero_le budget
  | cons c rest ih =>
    rw [fitting]
    split
    · have hrest := ih (budget - c.utf8Size)
      rw [byteCount_ofList_cons]
      omega
    · exact Nat.zero_le budget

/-- No beginning within the budget is longer. -/
theorem prefix_fitting {budget : Nat} {part chars : List Char} (begins : part <+: chars)
    (fits : byteCount (String.ofList part) ≤ budget) : part <+: fitting budget chars := by
  induction chars generalizing budget part with
  | nil => exact begins
  | cons c rest ih =>
    rcases List.prefix_cons_iff.mp begins with rfl | ⟨part, rfl, hpart⟩
    · exact List.nil_prefix
    · rw [byteCount_ofList_cons] at fits
      have hc : c.utf8Size ≤ budget := by omega
      rw [fitting, if_pos hc]
      exact List.cons_prefix_cons.mpr ⟨rfl, ih hpart (by omega)⟩

/-- The longest beginning of a text that ends between characters and keeps the budget: every other
one is a beginning of it. -/
structure Longest (budget : Nat) (text kept : String) : Prop where
  /-- the text begins with it -/
  begins : kept.toList <+: text.toList
  /-- it keeps the budget -/
  fits : byteCount kept ≤ budget
  /-- none is longer -/
  longest : ∀ part : String, part.toList <+: text.toList → byteCount part ≤ budget →
    part.toList <+: kept.toList

/-- What is kept of a text is the longest beginning that fits. -/
theorem longest_fit (budget : Nat) (text : String) : Longest budget text (fit budget text) where
  begins := by
    rw [fit, String.toList_ofList]
    exact fitting_begins budget text.toList
  fits := byteCount_fitting_le budget text.toList
  longest part begins fits := by
    rw [fit, String.toList_ofList]
    rw [← part.ofList_toList] at fits
    exact prefix_fitting begins fits

/-! ## Reading back -/

/-- The first character of an encoded text is read, whatever comes after it. -/
theorem firstChar?_encode (c : Char) (rest : List UInt8) :
    firstChar? (String.utf8EncodeChar c ++ rest) = some c := by
  have hlength : (String.utf8EncodeChar c).length ≤ 4 := by
    rw [String.length_utf8EncodeChar]
    exact c.utf8Size_le_four
  rw [firstChar?, List.take_append, List.take_of_length_le hlength, List.toByteArray_append]
  exact ByteArray.utf8DecodeChar?_utf8EncodeChar_append

/-- A scan of well-formed bytes finds the characters. -/
theorem scan_encode (c : Char) (rest : List UInt8) :
    scan (String.utf8EncodeChar c ++ rest) = c :: scan rest := by
  have hlength := String.length_utf8EncodeChar c
  have hfirst := firstChar?_encode c rest
  have hdrop : (String.utf8EncodeChar c ++ rest).drop c.utf8Size = rest := List.drop_left' hlength
  have hpos := c.utf8Size_pos
  rcases hbytes : String.utf8EncodeChar c ++ rest with _ | ⟨b, more⟩
  · have hempty := congrArg List.length hbytes
    rw [List.length_append, List.length_nil] at hempty
    omega
  · rw [hbytes] at hfirst hdrop
    rw [scan, hfirst]
    exact congrArg (fun bytes => c :: scan bytes) hdrop

/-- The lenient reader takes the bytes of a text for that text. -/
theorem ofUtf8Lossy_utf8 (text : String) : ofUtf8Lossy (utf8 text) = text := by
  have hscan (chars : List Char) : scan (chars.flatMap String.utf8EncodeChar) = chars := by
    induction chars with
    | nil => rw [List.flatMap_nil, scan]
    | cons c rest ih => rw [List.flatMap_cons, scan_encode, ih]
  rw [ofUtf8Lossy, utf8, hscan, String.ofList_toList]

end Marquee.Text
