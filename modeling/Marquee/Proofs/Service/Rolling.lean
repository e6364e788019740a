import Marquee.Proofs.Picture.Survey
import Marquee.Proofs.Service.Emulated

/-!
# An image that moves down all panels

The windows of an image from its top row to its bottom row are as many as the image has rows past
the first six, and one for a lower image. Together they show every row (`exists_window`), each in
its place (`testBit_windowAt`). A job that moves the image down is a round for each window
(`Job.rollImage_tour`), so that on any links it ends with the first failure in the order of the
rounds. Emulated panels are left with the last window in front (`image_rolled`).
-/

namespace Marquee

/-! ## The windows -/

section Windows

variable {γ : Type} [Picture γ] (image : γ)

theorem Job.lastRow_succ : lastRow image + 1 = max (Picture.height image - 6) 1 := by
  unfold lastRow panelHeight
  omega

/-- Each bit of a whole bitmap is the pixel of the picture in its place, and dark where the panel
has no row or the picture no pixel. -/
theorem testBit_windowAt (x y : Nat) {i row : Nat} (hi : i < panelWidth) (hrow : row ≤ 7) :
    ∃ byte, (windowAt image x y).toList[i]? = some byte ∧
      (byte.toNat.testBit (7 - row) = true ↔
        row < panelHeight ∧ x + i < Picture.width image ∧ y + row < Picture.height image ∧
          Picture.get image (x + i) (y + row) = true) := by
  rw [windowAt_toList]
  rcases Nat.lt_or_ge i (columnsAt image x y).length with hcolumn | hdark
  · rw [List.getElem?_append_left hcolumn, List.getElem?_eq_getElem hcolumn]
    exact ⟨_, rfl, testBit_columnsAt image x y hcolumn hrow⟩
  · refine ⟨0, ?_, ?_⟩
    · rw [List.getElem?_append_right hdark, List.getElem?_replicate, if_pos (by omega)]
    · rw [length_columnsAt] at hdark
      refine iff_of_false (by simp) ?_
      rintro ⟨-, hwidth, -⟩
      omega

/-- Every row of an image is in some window between its top row and its bottom row, and shown there
pixel by pixel. -/
theorem exists_window (x : Nat) {row : Nat} (hrow : row < Picture.height image) :
    ∃ y < max (Picture.height image - 6) 1, y ≤ row ∧ row < y + 7 ∧
      ∀ i < 120, ∃ byte, (windowAt image x y).toList[i]? = some byte ∧
        (byte.toNat.testBit (7 - (row - y)) = true ↔
          x + i < Picture.width image ∧ Picture.get image (x + i) row = true) := by
  have hfrom : min row (Picture.height image - 7) ≤ row := by omega
  have hto : row < min row (Picture.height image - 7) + 7 := by omega
  refine ⟨min row (Picture.height image - 7), by omega, hfrom, hto, fun i hi => ?_⟩
  generalize min row (Picture.height image - 7) = y at hfrom hto
  have hwithin : row - y ≤ 7 := by omega
  obtain ⟨byte, hbyte, hbit⟩ := testBit_windowAt image x y hi hwithin
  refine ⟨byte, hbyte, ?_⟩
  rw [hbit, show y + (row - y) = row by omega]
  constructor
  · rintro ⟨-, hwidth, -, hon⟩
    exact ⟨hwidth, hon⟩
  · rintro ⟨hwidth, hon⟩
    exact ⟨by unfold panelHeight; omega, hwidth, hrow, hon⟩

/-- The windows of an image with words for its width and its height are read in words. -/
theorem columns_of_window {x y : Nat} (hx : x < UInt64.size)
    (hwidth : Picture.width image < UInt64.size) (hheight : Picture.height image < UInt64.size)
    (hy : y < max (Picture.height image - 6) 1) :
    ∃ asked, Survey.columns image (.ofNat x) (.ofNat y) [] =
      some (columnsAt image x y, asked) := by
  have hcolumn : (UInt64.ofNat x).toNat = x := UInt64.toNat_ofNat_of_lt' hx
  have hrow : (UInt64.ofNat y).toNat = y := UInt64.toNat_ofNat_of_lt' (by omega)
  have h := Survey.columns_eq (x := .ofNat x) (y := .ofNat y) hwidth hheight []
  rw [hcolumn, hrow] at h
  exact ⟨_, h⟩

end Windows

/-! ## The calls -/

/-- A bitmap is a payload. -/
def Call.bitmapRequest (bitmap : Bitmap) : Request where
  opcode := .bitmap
  payload := ⟨bitmap.toList, by rw [bitmap.length_toList]; decide⟩

theorem Call.encode_bitmapRequest (bitmap : Bitmap) :
    (bitmapRequest bitmap).frame.encode = 0xA2 :: 120 :: bitmap.toList := by
  have hlength : (bitmapRequest bitmap).payload.lengthByte = 120 := by
    rw [Payload.lengthByte, bitmapRequest, bitmap.length_toList]
    rfl
  rw [Frame.encode, Request.frame, hlength]
  rfl

/-- A panel shows the bitmap. -/
theorem Call.works_showBitmap (bitmap : Bitmap) :
    (showBitmap bitmap.toList).Works (bitmapRequest bitmap) fun p =>
      { p with front := bitmap } where
  requests := by
    rw [requests, if_pos bitmap.length_toList]
    exact Request.only?_of_le (bitmapRequest bitmap).payload.length_le
  answer p := by
    have hblock : Bytes.ofList? panelWidth bitmap.toList = some bitmap :=
      Bytes.ofList?_eq_some_iff.mpr rfl
    change ((Bytes.ofList? panelWidth bitmap.toList).map fun front =>
      (Response.ack, { p with front := front })).getD (.refused, p) = _
    rw [hblock]
    rfl

/-- Bitmaps are shown one after another on a panel that answers, and the last one stays. -/
theorem Dialogue.InStep.showAll {d : Dialogue} (h : d.InStep)
    (responsive : d.line.panel.responsive = true) (bitmaps : List Bitmap) (last : Bitmap) :
    ∃ d', Call.Accepted ((bitmaps ++ [last]).map fun w => .showBitmap w.toList) d d' ∧
      d.GoesOn ((bitmaps ++ [last]).flatMap fun w => 0xA2 :: 120 :: w.toList)
        { d.line.panel with front := last } d' := by
  induction bitmaps generalizing d with
  | nil =>
    obtain ⟨d', hvisit, hgoes⟩ := h.visit_of_responsive (Call.works_showBitmap last) responsive
    refine ⟨d', Call.accepted_singleton.mpr hvisit, ?_⟩
    rw [List.nil_append, List.flatMap_singleton, ← Call.encode_bitmapRequest]
    exact hgoes
  | cons bitmap rest ih =>
    obtain ⟨d₁, hvisit, hgoes⟩ :=
      h.visit_of_responsive (Call.works_showBitmap bitmap) responsive
    rw [Call.encode_bitmapRequest] at hgoes
    obtain ⟨d₂, haccepted, hrest⟩ := ih hgoes.inStep (by rw [hgoes.panel]; exact responsive)
    rw [hgoes.panel] at hrest
    exact ⟨d₂, (Call.accepted_cons hvisit).mpr haccepted, hgoes.trans hrest⟩

section Emulated

variable {γ : Type} [Picture γ] {panels : List Dialogue} (inStep : ∀ d ∈ panels, d.InStep)
include inStep

/-- Panels that answer have got all windows down to row `last`, and show this one. -/
theorem windows_answered (responsive : ∀ d ∈ panels, d.line.panel.responsive = true) (image : γ)
    (x last : Nat) :
    let windows := (List.range (last + 1)).map fun y => windowAt image x y
    let t := tour panels (rounds panels.length (windows.map fun w => .showBitmap w.toList))
    t.result = .ok () ∧
      ∀ place, GoesOnAt place (windows.flatMap fun w => 0xA2 :: 120 :: w.toList)
        (fun p => { p with front := windowAt image x last }) panels t.panels := by
  have hwindows : (List.range (last + 1)).map (windowAt image x ·) =
      (List.range last).map (windowAt image x ·) ++ [windowAt image x last] := by
    rw [List.range_succ, List.map_append]
    rfl
  rw [hwindows]
  exact rounds_answered fun d hd => (inStep d hd).showAll (responsive d hd) _ _

/-- The first panel that does not answer has got the window at row `0` and no other, and so have the
panels before it. -/
theorem windows_unanswered {k : Nat} {d : Dialogue} (hd : panels[k]? = some d)
    (silent : d.line.panel.responsive = false)
    (before : ∀ place < k, ∀ d, panels[place]? = some d → d.line.panel.responsive = true)
    (image : γ) (x last : Nat) :
    let windows := (List.range (last + 1)).map fun y => windowAt image x y
    let t := tour panels (rounds panels.length (windows.map fun w => .showBitmap w.toList))
    t.result = .error (.exchange (.timeout 0xA2)) ∧
      (∀ place ≤ k, GoesOnAt place (0xA2 :: 120 :: (windowAt image x 0).toList)
        (fun p => { p with front := windowAt image x 0 }) panels t.panels) ∧
      ∀ place, k < place → t.panels[place]? = panels[place]? := by
  rw [List.range_succ_eq_map, List.map_cons, ← Call.encode_bitmapRequest]
  exact rounds_unanswered inStep (Call.works_showBitmap _) hd silent before _

end Emulated

/-! ## The job -/

variable {γ : Type} [Picture γ] {ℓ : Type} [Link ℓ]

/-- Moving an image down is a round for each of its windows. -/
theorem Job.rollImage_tour (image : γ) (x : Nat) (crew : Crew ℓ) :
    let count := max (Picture.height image - 6) 1
    let windows := (List.range count).map fun y => windowAt image x y
    let t := tour crew.panels
      (rounds crew.panels.length (windows.map fun w => .showBitmap w.toList))
    (rollImage image x crew).1 = t.result.map (fun _ => count) ∧
      (rollImage image x crew).2.panels = t.panels := by
  have h := showRows_tour image x 0 (lastRow image + 1) crew
  rw [← List.range_eq_range'] at h
  intro count windows t
  have hcount : lastRow image + 1 = count := lastRow_succ image
  have hcalls : (windows.map fun w => Call.showBitmap w.toList) =
      (List.range (lastRow image + 1)).map fun y => .showBitmap (windowAt image x y).toList := by
    rw [List.map_map, hcount]
    rfl
  obtain ⟨hresult, hpanels⟩ :
      t.result = (showRows image x 0 (lastRow image + 1) crew).1 ∧
        t.panels = (showRows image x 0 (lastRow image + 1) crew).2.panels := by
    dsimp only [t]
    rw [hcalls]
    exact h
  rw [hresult, hpanels]
  rcases hrows : showRows image x 0 (lastRow image + 1) crew with ⟨e | _, after⟩
  · rw [rollImage, Attempt.bind_of_error hrows]
    exact ⟨rfl, rfl⟩
  · rw [rollImage, Attempt.bind_of_ok hrows, hcount]
    exact ⟨rfl, rfl⟩

/-- Moving an image of any size down any number of panels, from any column on. On any links the job
makes the rounds of the windows at row `0`, `1` and so on, one more than rows are left below a
panel at the top: if no call fails all rounds are made, every panel has accepted all windows in
their order, and the answer is their number; a failure is the first one in the order of the rounds,
which break off there, each panel having accepted the windows before. Column and row of every pixel
that is asked for are machine words if the width and the height of the image and the column are.
Emulated panels that all answer are left with the last window in front and nothing else changed, and
have got the frames of the windows and no other byte; the first one that does not answer ends the
job after one window, which the panels after it have not got. Every row of the image is shown in one
of the windows, pixel by pixel. -/
theorem image_rolled (image : γ) (x : Nat) (crew : Crew ℓ)
    (past : List (Firmware × List Contact)) (journal : Journal) :
    let count := max (Picture.height image - 6) 1
    let windows := (List.range count).map fun y => windowAt image x y
    let calls := windows.map fun w => Call.showBitmap w.toList
    let rolled := Job.rollImage image x crew
    let t := tour crew.panels (rounds crew.panels.length calls)
    let panels := past.map fun p => (Dialogue.start p.1).course p.2
    let shown := Job.rollImage image x ⟨panels, journal⟩
    let frame := fun w : Bitmap => 0xA2 :: 120 :: w.toList
    (rolled.1 = t.result.map (fun _ => count) ∧ rolled.2.panels = t.panels) ∧
      ((∀ link ∈ crew.panels, ∃ link', Call.Accepted calls link link') → rolled.1 = .ok count) ∧
      (∀ n, rolled.1 = .ok n → n = count ∧ t.made = rounds crew.panels.length calls ∧
        ∀ place, AcceptedAt place calls crew.panels rolled.2.panels) ∧
      (∀ e, rolled.1 = .error e → ∃ y k, t.BreaksOff crew.panels calls e y k) ∧
      (x < UInt64.size → Picture.width image < UInt64.size →
        Picture.height image < UInt64.size → ∀ y < count, ∃ asked,
          Survey.columns image (.ofNat x) (.ofNat y) [] = some (columnsAt image x y, asked)) ∧
      ((∀ d ∈ panels, d.line.panel.responsive = true) →
        shown.1 = .ok count ∧ ∀ place, GoesOnAt place (windows.flatMap frame)
          (fun p => { p with front := windowAt image x (count - 1) }) panels shown.2.panels) ∧
      (∀ k d, panels[k]? = some d → d.line.panel.responsive = false →
        (∀ place < k, ∀ d, panels[place]? = some d → d.line.panel.responsive = true) →
        shown.1 = .error (.exchange (.timeout 0xA2)) ∧
          (∀ place ≤ k, GoesOnAt place (frame (windowAt image x 0))
            (fun p => { p with front := windowAt image x 0 }) panels shown.2.panels) ∧
          ∀ place, k < place → shown.2.panels[place]? = panels[place]?) ∧
      ∀ row < Picture.height image, ∃ y < count, y ≤ row ∧ row < y + 7 ∧
        ∀ i < 120, ∃ byte, (windowAt image x y).toList[i]? = some byte ∧
          (byte.toNat.testBit (7 - (row - y)) = true ↔
            x + i < Picture.width image ∧ Picture.get image (x + i) row = true) := by
  intro count windows calls rolled t panels shown frame
  -- To roll an image is a tour of rounds, on any links and on the emulated panels.
  obtain ⟨hresult, hpanels⟩ : rolled.1 = t.result.map (fun _ => count) ∧
      rolled.2.panels = t.panels := Job.rollImage_tour image x crew
  have hshown : shown.1 = (tour panels (rounds panels.length calls)).result.map (fun _ => count) ∧
      shown.2.panels = (tour panels (rounds panels.length calls)).panels :=
    Job.rollImage_tour image x ⟨panels, journal⟩
  have inStep : ∀ d ∈ panels, d.InStep := fun d => inStep_of_mem_course
  have hpos : count = count - 1 + 1 := by omega
  refine ⟨⟨hresult, hpanels⟩, fun h => ?_, fun n hok => ?_, fun e herror => ?_,
    fun hx hwidth hheight y hy => ?_, fun responsive => ?_, fun k d hd silent before => ?_,
    fun row hrow => ?_⟩
  · rw [hresult, rounds_accepted h]
    rfl
  · cases ht : t.result with
    | error e =>
      rw [hresult, ht] at hok
      cases hok
    | ok _ =>
      rw [hresult, ht] at hok
      rw [hpanels]
      exact ⟨(Except.ok.inj hok).symm, rounds_ok ht⟩
  · cases ht : t.result with
    | error failure =>
      rw [hresult, ht] at herror
      cases herror
      exact rounds_error ht
    | ok _ =>
      rw [hresult, ht] at herror
      cases herror
  · exact columns_of_window image hx hwidth hheight hy
  · have h := windows_answered inStep responsive image x (count - 1)
    rw [← hpos] at h
    rw [hshown.1, hshown.2, h.1]
    exact ⟨rfl, h.2⟩
  · have h := windows_unanswered inStep hd silent before image x (count - 1)
    rw [← hpos] at h
    rw [hshown.1, hshown.2, h.1]
    exact ⟨rfl, h.2⟩
  · exact exists_window image x hrow

end Marquee
