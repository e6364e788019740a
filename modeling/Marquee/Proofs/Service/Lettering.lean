import Marquee.Proofs.Service.Emulated
import Marquee.Proofs.Text.Cut

/-!
# A text on all panels

A text goes to the panels in one round, cut to what a frame of text may hold
(`Job.writeText_tour`). After the cut its length is no reason to turn the call away, so that only
the coordinates are (`Call.requests_showText_of_not_fits`), and since the cut is between two
characters each panel reads from the bytes the very text that was sent (`Call.works_showText`). For
emulated panels this settles the job (`text_written`).
-/

namespace Marquee

/-! ## The call -/

namespace Call

variable {text : String} {x y : Int}

/-- Coordinates and bytes of a text that is not too long are a payload. -/
def textRequest (text : String) (x y : Int) (short : Text.byteCount text ≤ maxPanelText) :
    Request where
  opcode := .text
  payload :=
    { toList := (Int8.ofInt x).toUInt8 :: (Int8.ofInt y).toUInt8 :: Text.utf8 text
      length_le := by
        rw [List.length_cons, List.length_cons, Text.length_utf8]
        unfold maxPanelText Text.byteCount at short
        unfold maxPayload
        omega }

theorem encode_textRequest (short : Text.byteCount text ≤ maxPanelText) :
    (textRequest text x y short).frame.encode =
      0xA1 :: UInt8.ofNat (Text.byteCount text + 2) ::
        (Int8.ofInt x).toUInt8 :: (Int8.ofInt y).toUInt8 :: Text.utf8 text := by
  have hlength : (textRequest text x y short).payload.lengthByte =
      UInt8.ofNat (Text.byteCount text + 2) := by
    rw [Payload.lengthByte, textRequest, List.length_cons, List.length_cons, Text.length_utf8]
    rfl
  rw [Frame.encode, Request.frame, hlength]
  rfl

/-- A panel takes the text as it was sent. -/
theorem works_showText (short : Text.byteCount text ≤ maxPanelText) (hx : FitsSignedByte x)
    (hy : FitsSignedByte y) :
    (showText text x y).Works (textRequest text x y short) fun p =>
      { p with text := some text } where
  requests := by
    have held : ¬ maxPanelText < text.utf8ByteSize := Nat.not_lt.mpr short
    rw [requests, if_neg held, if_pos hx, if_pos hy]
    exact Request.only?_of_le (textRequest text x y short).payload.length_le
  answer p := by
    change (Response.ack, { p with text := some (Text.ofUtf8Lossy (Text.utf8 text)) }) = _
    rw [Text.ofUtf8Lossy_utf8]

/-- Coordinates are checked one after the other. -/
theorem requests_showText_of_not_fits (short : Text.byteCount text ≤ maxPanelText)
    (h : ¬ (FitsSignedByte x ∧ FitsSignedByte y)) :
    (showText text x y).requests =
      .error (.coordinateOutOfRange (if FitsSignedByte x then y else x)) := by
  have held : ¬ maxPanelText < text.utf8ByteSize := Nat.not_lt.mpr short
  rw [requests, if_neg held]
  by_cases hx : FitsSignedByte x
  · rw [if_pos hx, if_pos hx, if_neg fun hy => h ⟨hx, hy⟩]
  · rw [if_neg hx, if_neg hx]

end Call

/-! ## The job -/

/-- Writing a text is a round with the text as it was cut. -/
theorem Job.writeText_tour {ℓ : Type} [Link ℓ] (text : String) (x y : Int) (crew : Crew ℓ) :
    let t := tour crew.panels
      (round crew.panels.length (.showText (Text.fit maxPanelText text) x y))
    t.result = (writeText text x y crew).1 ∧ t.panels = (writeText text x y crew).2.panels := by
  by_cases hcut : Text.byteCount (Text.fit maxPanelText text) < Text.byteCount text
  · simp only [writeText, if_pos hcut]
    exact each_tour (.showText (Text.fit maxPanelText text) x y) _ (crew.say .warn _)
  · simp only [writeText, if_neg hcut]
    exact each_tour (.showText (Text.fit maxPanelText text) x y) _ crew

/-- A cut text is not turned away for its length. -/
theorem text_not_refused {text : String} {x y : Int} {d d' : Dialogue} {e : LinkError}
    (inStep : d.InStep) (short : Text.byteCount text ≤ maxPanelText)
    (h : (Call.showText text x y).visit d = (.error e, d')) (n : Nat) :
    e ≠ .argument (.textTooLong n) := by
  rintro rfl
  by_cases hfits : FitsSignedByte x ∧ FitsSignedByte y
  · obtain ⟨_, hvisit, -⟩ := inStep.visit (Call.works_showText short hfits.1 hfits.2)
    have hresult := congrArg Prod.fst (h.symm.trans hvisit)
    dsimp only at hresult
    split at hresult <;> cases hresult
  · obtain ⟨_, hvisit, -⟩ :=
      inStep.visit_of_error (Call.requests_showText_of_not_fits short hfits)
    cases h.symm.trans hvisit

/-- Writing a text to any number of emulated panels, in any states and after any calls. The panels
get in order the longest beginning of the text that ends between two characters and has at most 120
bytes, and its length is never the reason for a failure. With coordinates that are signed bytes and
panels that all answer the job succeeds, and on each panel exactly this beginning is stored and
nothing else is changed. The first panel that does not answer ends the job with its timeout: up to
this panel the text is stored, and the panels after it are as they were. With other coordinates the
job fails at the first panel, and no panel has got a byte. -/
theorem text_written (text : String) (x y : Int) (past : List (Firmware × List Contact))
    (journal : Journal) :
    let kept := Text.fit maxPanelText text
    let panels := past.map fun p => (Dialogue.start p.1).course p.2
    let written := Job.writeText text x y ⟨panels, journal⟩
    let t := tour panels (round panels.length (.showText kept x y))
    let frame := 0xA1 :: UInt8.ofNat (Text.byteCount kept + 2) ::
      (Int8.ofInt x).toUInt8 :: (Int8.ofInt y).toUInt8 :: Text.utf8 kept
    let lettered := fun place =>
      GoesOnAt place frame (fun p => { p with text := some kept }) panels written.2.panels
    Text.Longest 120 text kept ∧
      (written.1 = t.result ∧ written.2.panels = t.panels ∧
        written.2.panels.length = panels.length) ∧
      (∀ n, written.1 ≠ .error (.argument (.textTooLong n))) ∧
      (FitsSignedByte x ∧ FitsSignedByte y →
        ((∀ d ∈ panels, d.line.panel.responsive = true) →
          written.1 = .ok () ∧ ∀ place, lettered place) ∧
        ∀ k d, panels[k]? = some d → d.line.panel.responsive = false →
          (∀ place < k, ∀ d, panels[place]? = some d → d.line.panel.responsive = true) →
          written.1 = .error (.exchange (.timeout 0xA1)) ∧ (∀ place ≤ k, lettered place) ∧
            ∀ place, k < place → written.2.panels[place]? = panels[place]?) ∧
      (¬ (FitsSignedByte x ∧ FitsSignedByte y) → panels ≠ [] →
        written.1 =
            .error (.argument (.coordinateOutOfRange (if FitsSignedByte x then y else x))) ∧
          ∀ place, GoesOnAt place [] id panels written.2.panels) := by
  intro kept panels written t frame lettered
  have short : Text.byteCount kept ≤ maxPanelText := (Text.longest_fit maxPanelText text).fits
  have inStep : ∀ d ∈ panels, d.InStep := fun d => inStep_of_mem_course
  obtain ⟨hresult, hpanels⟩ : t.result = written.1 ∧ t.panels = written.2.panels :=
    Job.writeText_tour text x y ⟨panels, journal⟩
  have hround : t = tour panels (rounds panels.length [.showText kept x y]) := by
    rw [rounds_singleton]
  dsimp only [lettered]
  rw [← hresult, ← hpanels]
  refine ⟨Text.longest_fit maxPanelText text, ⟨rfl, rfl, length_tour _ _⟩, fun n hlong => ?_,
    fun hfits => ?_, fun hfits somewhere => ?_⟩
  · rw [hround] at hlong
    obtain ⟨⟨i, hi⟩, k, hstop⟩ := rounds_error hlong
    obtain rfl : i = 0 := Nat.lt_one_iff.mp hi
    obtain ⟨d, mid, d', hd, -, haccepted, hfails⟩ := hstop.here
    obtain rfl : d = mid := congrArg Prod.snd haccepted
    exact text_not_refused (inStep d (List.mem_of_getElem? hd)) short hfails n rfl
  · have works := Call.works_showText short hfits.1 hfits.2
    have hencode : (Call.textRequest kept x y short).frame.encode = frame :=
      Call.encode_textRequest short
    rw [hround, ← hencode]
    refine ⟨fun responsive => rounds_answered fun d hd => ?_,
      fun k d hd silent before => rounds_unanswered inStep works hd silent before []⟩
    obtain ⟨d', hvisit, hgoes⟩ := (inStep d hd).visit_of_responsive works (responsive d hd)
    exact ⟨d', Call.accepted_singleton.mpr hvisit, hgoes⟩
  · rw [hround]
    exact rounds_refused inStep (Call.requests_showText_of_not_fits short hfits) somewhere []

end Marquee
