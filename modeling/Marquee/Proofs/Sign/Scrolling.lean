import Marquee.Proofs.Number.Binary
import Marquee.Sign.Operation

/-!
# How far a message has scrolled

The offset of a message that fits the panel stays zero, since such a message has no pace. The offset
of a wider one is a remainder by its width as the format has it, or zero, whatever the pace and the
time passed are. The format may have the width larger than it is; the whole part of the offset is
below the exact width all the same, because no number of the format lies between the two.
-/

namespace Marquee

open Binary (nearestUnits)

/-! ## Widths -/

/-- The width of a message in smallest values, as the format has it. -/
def HeldMessage.wrapUnits (held : HeldMessage) : Nat := nearestUnits .single held.width.toNat

theorem single_precision_pos : 0 < BinaryFormat.single.precision := by decide

/-- The width of a message is rounded to a finite value. -/
theorem HeldMessage.ofNat_width (held : HeldMessage) :
    Binary.ofNat .single held.width.toNat = .finite false held.wrapUnits :=
  Binary.ofNat_eq_finite (f := .single) (k := 32) single_precision_pos held.width.toNat_lt
    (by decide)

/-- A message with a width does not wrap at zero. -/
theorem HeldMessage.wrapUnits_pos (held : HeldMessage) (hwidth : 0 < held.width.toNat) :
    0 < held.wrapUnits :=
  Binary.nearestUnits_pos single_precision_pos hwidth

namespace Sign

/-! ## One step -/

/-- From wherever it goes on, the offset comes to a number from zero on and below the width. -/
theorem advance_hasUnits (held : HeldMessage) (hwidth : 0 < held.width.toNat)
    (tickS offset : Single) :
    ∃ units, (HeldMessage.advance held tickS offset).HasUnits units ∧ units < held.wrapUnits := by
  have hpos := held.wrapUnits_pos hwidth
  rw [HeldMessage.advance, held.ofNat_width]
  by_cases hnext : ((offset + tickS / held.interval) % .finite false held.wrapUnits).isFinite &&
      Binary.zero.le ((offset + tickS / held.interval) % .finite false held.wrapUnits)
  · obtain ⟨hfinite, hle⟩ := Bool.and_eq_true_iff.mp hnext
    rw [if_pos hnext]
    apply Binary.hasUnits_rem _ hpos _ hfinite hle
    · intro sign m hsum
      exact Binary.significant_add single_precision_pos hsum
    · exact Binary.significant_nearestUnits single_precision_pos _
  · rw [if_neg hnext]
    exact ⟨0, Binary.hasUnits_zero, hpos⟩

/-! ## Every operation -/

/-- The offset is where it may be. -/
structure InRange (s : Sign) : Prop where
  /-- without a message it is zero -/
  still : s.message = none → s.scrolledOut = .zero
  /-- a message that fits the panel has no pace, and has not moved -/
  fits : ∀ held, s.message = some held → held.width.toNat ≤ panelWidth →
    held.interval = .zero ∧ s.scrolledOut = .zero
  /-- a wider one is on its way -/
  runs : ∀ held, s.message = some held → panelWidth < held.width.toNat →
    ∃ units, s.scrolledOut.HasUnits units ∧ units < held.wrapUnits

variable {s t : Sign}

theorem inRange_new : new.InRange where
  still _ := rfl
  fits _ h := by cases h
  runs _ h := by cases h

/-- The range is a matter of the message and of how far it has scrolled. -/
theorem InRange.congr (h : s.InRange) (hmessage : t.message = s.message)
    (hoffset : t.scrolledOut = s.scrolledOut) : t.InRange := by
  obtain ⟨hstill, hfits, hruns⟩ := h
  rw [← hmessage, ← hoffset] at hstill
  simp only [← hmessage, ← hoffset] at hfits hruns
  exact ⟨hstill, hfits, hruns⟩

/-- A message that fits the panel and has not moved. -/
theorem InRange.of_fits {held : HeldMessage} (hmessage : s.message = some held)
    (hfits : held.width.toNat ≤ panelWidth) (hpace : held.interval = .zero)
    (hoffset : s.scrolledOut = .zero) : s.InRange where
  still _ := hoffset
  fits held' hheld _ := by
    obtain rfl := Option.some.inj (hmessage.symm.trans hheld)
    exact ⟨hpace, hoffset⟩
  runs held' hheld hwide := by
    obtain rfl := Option.some.inj (hmessage.symm.trans hheld)
    exact absurd hfits (Nat.not_le_of_lt hwide)

/-- A wider message on its way. -/
theorem InRange.of_wide {held : HeldMessage} (hmessage : s.message = some held)
    (hwide : panelWidth < held.width.toNat)
    (hunits : ∃ units, s.scrolledOut.HasUnits units ∧ units < held.wrapUnits) : s.InRange where
  still hnone := by
    rw [hmessage] at hnone
    cases hnone
  fits held' hheld hfits := by
    obtain rfl := Option.some.inj (hmessage.symm.trans hheld)
    exact absurd hfits (Nat.not_le_of_lt hwide)
  runs held' hheld _ := by
    obtain rfl := Option.some.inj (hmessage.symm.trans hheld)
    exact hunits

/-- A message that has just come. -/
theorem InRange.fresh {held : HeldMessage} {c : Timings} (hmessage : s.message = some held)
    (hpace : held.interval = c.secondsPerColumn held.width) (hoffset : s.scrolledOut = .zero) :
    s.InRange := by
  rcases Nat.lt_or_ge panelWidth held.width.toNat with hwide | hfits
  · apply InRange.of_wide hmessage hwide
    rw [hoffset]
    exact ⟨0, Binary.hasUnits_zero, held.wrapUnits_pos (by omega)⟩
  · apply InRange.of_fits hmessage hfits _ hoffset
    rw [hpace, Timings.secondsPerColumn, if_pos hfits]

/-- A message that goes away takes its scrolling with it. -/
theorem InRange.dropExpired (h : s.InRange) (nowMs : Nat) : (s.dropExpired nowMs).2.InRange := by
  rw [Sign.dropExpired]
  cases hmessage : s.message with
  | none => exact h
  | some held =>
    by_cases gone : held.expiryMs ≤ nowMs
    · simp only [if_pos gone]
      exact inRange_new.congr rfl rfl
    · simp only [if_neg gone]
      exact h

/-- A step of scrolling wraps before it leaves the range. -/
theorem InRange.scroll (h : s.InRange) (tickS : Single) : (s.scroll tickS).InRange := by
  rw [Sign.scroll]
  cases hmessage : s.message with
  | none => exact h
  | some held =>
    by_cases stays : held.interval.le .zero || held.width == 0
    · simp only [if_pos stays]
      exact h
    · simp only [if_neg stays]
      have hwide : panelWidth < held.width.toNat := by
        -- A message that fits the panel has no pace, so it would stay.
        by_contra hfits
        obtain ⟨hpace, -⟩ := h.fits held hmessage (Nat.le_of_not_lt hfits)
        rw [hpace] at stays
        exact stays rfl
      exact .of_wide rfl hwide (advance_hasUnits held (by omega) tickS s.scrolledOut)

/-- A new message begins with nothing scrolled out. -/
theorem InRange.obey (h : s.InRange) (c : Timings) (measure : String → UInt32) (order : Order)
    (nowMs : Nat) : (s.obey c measure order nowMs).2.InRange := by
  cases order with
  | power on => exact h.congr rfl rfl
  | inversion on => exact h.congr rfl rfl
  | message text => exact .fresh rfl rfl rfl

theorem InRange.perform (h : s.InRange) (operation : SignOperation) :
    (s.perform operation).InRange := by
  cases operation with
  | power on => exact h.congr rfl rfl
  | inversion on => exact h.congr rfl rfl
  | hold c text width nowMs => exact .fresh rfl rfl rfl
  | obey c measure order nowMs => exact h.obey c measure order nowMs
  | dropExpired nowMs => exact h.dropExpired nowMs
  | scroll tickS => exact h.scroll tickS
  | confirm bitmap => exact h.congr rfl rfl
  | forgetConfirmed => exact h.congr rfl rfl

/-- The range is kept over all operations, by induction on them. -/
theorem InRange.performAll (h : s.InRange) (operations : List SignOperation) :
    (s.performAll operations).InRange := by
  induction operations generalizing s with
  | nil => exact h
  | cons operation rest ih => exact ih (h.perform operation)

/-! ## What is seen of the offset -/

/-- The offset of a message that does not fit the panel, and its whole part. -/
theorem InRange.seen (h : s.InRange) {held : HeldMessage} (hmessage : s.message = some held)
    (hwide : panelWidth < held.width.toNat) :
    ∃ offset : ℚ, s.scrolledOut.value = some offset ∧ 0 ≤ offset ∧
      offset < held.wrapUnits / 2 ^ BinaryFormat.single.grain ∧
      ∃ shown, s.view.message = some ⟨held.text, held.width, shown⟩ ∧
        shown.toNat = ⌊offset⌋₊ ∧ shown < held.width := by
  obtain ⟨units, hunits, hlt⟩ := h.runs held hmessage hwide
  -- Below the rounded width is below the exact one: there is no value of the format in between.
  have hexact : units < held.width.toNat * 2 ^ BinaryFormat.single.grain :=
    Binary.lt_of_lt_nearestUnits single_precision_pos hunits.significant hlt
  have hwhole : units / 2 ^ BinaryFormat.single.grain < held.width.toNat :=
    (Nat.div_lt_iff_lt_mul (Nat.two_pow_pos _)).mpr hexact
  have hsize : held.width.toNat < 2 ^ 32 := held.width.toNat_lt
  have htruncate : s.scrolledOut.truncate 32 = units / 2 ^ BinaryFormat.single.grain := by
    rw [hunits.truncate, Nat.min_eq_left]
    omega
  have hshown : (UInt32.ofNat (s.scrolledOut.truncate 32)).toNat =
      units / 2 ^ BinaryFormat.single.grain := by
    rw [htruncate]
    exact UInt32.toNat_ofNat_of_lt (Nat.lt_trans hwhole hsize)
  refine ⟨_, hunits.value, by positivity, ?_, UInt32.ofNat (s.scrolledOut.truncate 32), ?_, ?_, ?_⟩
  · have hscale : (0 : ℚ) < 2 ^ BinaryFormat.single.grain := by positivity
    apply div_lt_div_of_pos_right _ hscale
    exact_mod_cast hlt
  · rw [view, hmessage]
    rfl
  · rw [hshown, Binary.floor_units]
  · rw [UInt32.lt_iff_toNat_lt, hshown]
    exact hwhole

/-- Whatever is done to a sign, in whatever order and with whatever timings: its offset is a finite
number from zero on. It is zero without a message and while the message fits the panel; otherwise
it is below the width as the format has it, and the whole columns that are seen of it are below the
exact width. -/
theorem scroll_in_range (operations : List SignOperation) :
    let s := new.performAll operations
    ∃ offset : ℚ, s.scrolledOut.value = some offset ∧ 0 ≤ offset ∧
      (s.message = none → offset = 0) ∧
      ∀ held, s.message = some held →
        (held.width.toNat ≤ panelWidth → offset = 0) ∧
        (panelWidth < held.width.toNat →
          (∃ wrap : ℚ, (Binary.ofNat .single held.width.toNat).value = some wrap ∧
            offset < wrap) ∧
          ∃ shown, s.view.message = some ⟨held.text, held.width, shown⟩ ∧
            shown.toNat = ⌊offset⌋₊ ∧ shown < held.width) := by
  intro s
  have h : s.InRange := inRange_new.performAll operations
  have hnought (hoffset : s.scrolledOut = .zero) : s.scrolledOut.value = some 0 := by
    rw [hoffset]
    exact Binary.value_zero
  cases hmessage : s.message with
  | none =>
    refine ⟨0, hnought (h.still hmessage), le_refl 0, fun _ => rfl, ?_⟩
    intro held hheld
    cases hheld
  | some held =>
    rcases Nat.lt_or_ge panelWidth held.width.toNat with hwide | hfits
    · obtain ⟨offset, hvalue, hnonneg, hlt, hshown⟩ := h.seen hmessage hwide
      refine ⟨offset, hvalue, hnonneg, nofun, ?_⟩
      rintro held' ⟨⟩
      refine ⟨fun hfits => absurd hfits (Nat.not_le_of_lt hwide), fun _ => ⟨⟨_, ?_, hlt⟩, hshown⟩⟩
      rw [held.ofNat_width]
      exact Binary.value_finite held.wrapUnits
    · obtain ⟨-, hoffset⟩ := h.fits held hmessage hfits
      refine ⟨0, hnought hoffset, le_refl 0, fun _ => rfl, ?_⟩
      rintro held' ⟨⟩
      exact ⟨fun _ => rfl, fun hwide => absurd hfits (Nat.not_le_of_lt hwide)⟩

end Sign

end Marquee
