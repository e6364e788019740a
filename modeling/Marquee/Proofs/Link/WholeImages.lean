import Marquee.Proofs.Link.Unsteady
import Marquee.Proofs.Wire.Language

/-!
# Whole images

A bitmap in halves is written to the hidden side and then shown, and no other ordinary call touches
the hidden side in between. So the first few frames of such a call leave the front as it is, and all
of them bring the whole bitmap to the front, whatever the hidden side held before
(`front_handle_showHalves`). On an unsteady line only the first few frames of a call reach the
panel, hence a panel never shows a mixture of two bitmaps (`shown_whole`).
-/

namespace Marquee

/-- The frame touches neither the shown bitmap nor which side is shown. -/
def Frame.Behind (f : Frame) : Prop :=
  f.opcode ≠ Opcode.bitmap.toByte ∧ f.opcode ≠ Opcode.flip.toByte

theorem Frame.not_behind_flip : ¬ Frame.flip.Behind := fun h => h.2 rfl

theorem Frame.behind_of_opcode {f : Frame} {o : Opcode} (h : f.opcode = o.toByte)
    (hbitmap : o ≠ .bitmap) (hflip : o ≠ .flip) : f.Behind := by
  constructor
  · exact fun hbyte => hbitmap (Opcode.toByte_injective (h.symm.trans hbyte))
  · exact fun hbyte => hflip (Opcode.toByte_injective (h.symm.trans hbyte))

/-! ## What frames do to the two sides -/

namespace Firmware

variable {p : Firmware} {f f₁ f₂ : Frame}

/-- Only a bitmap or an exchange of the two sides changes the front. -/
theorem answer_behind (h : f.Behind) :
    (p.answer f).2.front = p.front ∧ (p.answer f).2.flipCount = p.flipCount := by
  obtain ⟨hbitmap, hflip⟩ := h
  rw [answer]
  rcases hc : Command.ofFrame? f with e | c
  · exact ⟨rfl, rfl⟩
  obtain ⟨o, ho, hpayload⟩ := Command.ofFrame?_eq_ok_iff.mp hc
  rw [← Command.opcode_of_ofPayload? hpayload] at ho
  cases c with
  | bitmap bytes => exact absurd ho hbitmap
  | flip => exact absurd ho hflip
  | firstHalf bytes | secondHalf bytes =>
    simp only [execute]
    rcases Bytes.ofList? _ bytes with _ | half
    · exact ⟨rfl, rfl⟩
    · exact ⟨rfl, rfl⟩
  | _ => exact ⟨rfl, rfl⟩

theorem handle_behind {frames : List Frame} (h : ∀ f ∈ frames, f.Behind) :
    (p.handle frames).front = p.front ∧ (p.handle frames).flipCount = p.flipCount := by
  induction frames generalizing p with
  | nil => exact ⟨rfl, rfl⟩
  | cons f rest ih =>
    obtain ⟨hfront, hflips⟩ := answer_behind (p := p) (h f List.mem_cons_self)
    obtain ⟨ihfront, ihflips⟩ :=
      ih (p := (p.answer f).2) fun g hg => h g (List.mem_cons_of_mem f hg)
    exact ⟨ihfront.trans hfront, ihflips.trans hflips⟩

theorem answer_bitmap {bitmap : Bitmap} (h : Command.toFrame? (.bitmap bitmap.toList) = .ok f) :
    (p.answer f).2 = { p with front := bitmap } := by
  rw [answer_toFrame? p h, execute, Bytes.ofList?_eq_some_iff.mpr rfl]
  rfl

theorem answer_firstHalf {half : Bytes halfWidth}
    (h : Command.toFrame? (.firstHalf half.toList) = .ok f) :
    (p.answer f).2 = { p with back := withFirstHalf half p.back } := by
  rw [answer_toFrame? p h, execute, Bytes.ofList?_eq_some_iff.mpr rfl]
  rfl

theorem answer_secondHalf {half : Bytes halfWidth}
    (h : Command.toFrame? (.secondHalf half.toList) = .ok f) :
    (p.answer f).2 = { p with back := withSecondHalf half p.back } := by
  rw [answer_toFrame? p h, execute, Bytes.ofList?_eq_some_iff.mpr rfl]
  rfl

theorem answer_flip :
    (p.answer .flip).2 =
      { p with front := p.back, back := p.front, flipCount := p.flipCount + 1 } := by
  rw [answer_toFrame? p (c := .flip) (Frame.new?_self .flip)]
  rfl

/-- Both halves of a bitmap and an exchange of the two sides bring the bitmap to the front, whatever
was on the hidden side. -/
theorem handle_halves {bitmap : Bitmap}
    (h₁ : Command.toFrame? (.firstHalf (Link.firstHalf bitmap).toList) = .ok f₁)
    (h₂ : Command.toFrame? (.secondHalf (Link.secondHalf bitmap).toList) = .ok f₂) :
    p.handle [f₁, f₂, .flip] =
      { p with front := bitmap, back := p.front, flipCount := p.flipCount + 1 } := by
  calc p.handle [f₁, f₂, .flip]
      = (((p.answer f₁).2.answer f₂).2.answer .flip).2 := rfl
    _ = ({ p with back := bitmap }.answer .flip).2 := by
      rw [answer_firstHalf h₁, answer_secondHalf h₂]
      simp only [Link.withSecondHalf_withFirstHalf]
    _ = _ := answer_flip

end Firmware

/-! ## What calls do to the two sides -/

namespace Call

variable {call : Call} {bytes : List UInt8} {first : List Frame}

/-- A text is shown by a request for a text. -/
theorem opcode_of_showText {text : String} {x y : Int} {requests : List Request}
    (h : (showText text x y).requests = .ok requests) : ∀ r ∈ requests, r.opcode = .text := by
  rw [Call.requests] at h
  split at h
  · cases h
  split at h
  · split at h
    · exact Request.opcode_of_only? h
    · cases h
  · cases h

/-- An ordinary call that shows no image asks for nothing that touches the front. -/
theorem behind_of_mem_frames (ordinary : call.Ordinary)
    (hbitmap : ∀ bytes, call ≠ .showBitmap bytes) (hhalves : ∀ bytes, call ≠ .showHalves bytes) :
    ∀ f ∈ call.frames, f.Behind := by
  intro f hf
  cases hrequests : call.requests with
  | error e =>
    rw [frames, hrequests] at hf
    cases hf
  | ok requests =>
    rw [frames_of_ok hrequests] at hf
    obtain ⟨r, hr, rfl⟩ := List.mem_map.mp hf
    suffices h : r.opcode ≠ .bitmap ∧ r.opcode ≠ .flip from
      Frame.behind_of_opcode rfl h.1 h.2
    cases call with
    | exchange opcode payload => exact ordinary.elim
    | send command => exact ordinary.elim
    | flip => exact ordinary.elim
    | showBitmap bytes => exact absurd rfl (hbitmap bytes)
    | showHalves bytes => exact absurd rfl (hhalves bytes)
    | askIdentity | storeId id | switchRelay on =>
      cases hrequests
      rw [List.mem_singleton.mp hr]
      exact ⟨by rintro ⟨⟩, by rintro ⟨⟩⟩
    | showText text x y =>
      rw [opcode_of_showText hrequests r hr]
      exact ⟨by rintro ⟨⟩, by rintro ⟨⟩⟩
    | passThrough bytes =>
      rw [Request.opcode_of_only? hrequests r hr]
      exact ⟨by rintro ⟨⟩, by rintro ⟨⟩⟩

/-- No frame is sent for an image of a wrong size. -/
theorem frames_of_ne (h : bytes.length ≠ panelWidth) :
    (showBitmap bytes).frames = [] ∧ (showHalves bytes).frames = [] := by
  constructor
  · rw [frames, requests, if_neg h]
  · rw [frames, requests, if_neg h]

/-- A bitmap in one piece is one frame. -/
theorem frames_showBitmap (bitmap : Bitmap) :
    ∃ f, Command.toFrame? (.bitmap bitmap.toList) = .ok f ∧
      (showBitmap bitmap.toList).frames = [f] := by
  have fits : bitmap.toList.length ≤ maxPayload := by
    rw [bitmap.length_toList]
    decide
  refine ⟨⟨_, bitmap.toList, fits⟩, Command.toFrame?_eq_ok_iff.mpr ⟨rfl, rfl⟩, ?_⟩
  rw [frames, requests, if_pos bitmap.length_toList, Request.only?_of_le fits]
  rfl

/-- A bitmap in halves is three frames, and the last one exchanges the two sides. -/
theorem frames_showHalves (bitmap : Bitmap) :
    ∃ f₁ f₂, Command.toFrame? (.firstHalf (Link.firstHalf bitmap).toList) = .ok f₁ ∧
      Command.toFrame? (.secondHalf (Link.secondHalf bitmap).toList) = .ok f₂ ∧
      (showHalves bitmap.toList).frames = [f₁, f₂, .flip] := by
  have fits (half : Bytes halfWidth) : half.toList.length ≤ maxPayload := by
    rw [half.length_toList]
    decide
  refine ⟨⟨_, _, fits (Link.firstHalf bitmap)⟩, ⟨_, _, fits (Link.secondHalf bitmap)⟩,
    Command.toFrame?_eq_ok_iff.mpr ⟨rfl, rfl⟩, Command.toFrame?_eq_ok_iff.mpr ⟨rfl, rfl⟩, ?_⟩
  have hfirst : Request.of? .firstHalf (bitmap.toList.take halfWidth) = .ok _ :=
    Request.of?_of_le (fits (Link.firstHalf bitmap))
  have hsecond : Request.of? .secondHalf (bitmap.toList.drop halfWidth) = .ok _ :=
    Request.of?_of_le (fits (Link.secondHalf bitmap))
  rw [frames, requests, if_pos bitmap.length_toList, hfirst, hsecond]
  rfl

/-- The first few frames of a bitmap in one piece leave the front or bring the bitmap to it. -/
theorem front_handle_showBitmap (hfirst : first <+: (showBitmap bytes).frames) (p : Firmware) :
    (p.handle first).front = p.front ∨
      (showBitmap bytes).image = some (p.handle first).front := by
  cases hbytes : Bytes.ofList? panelWidth bytes with
  | none =>
    rw [(frames_of_ne (Bytes.ofList?_eq_none_iff.mp hbytes)).1] at hfirst
    rw [List.prefix_nil.mp hfirst]
    exact .inl rfl
  | some bitmap =>
    obtain rfl := Bytes.ofList?_eq_some_iff.mp hbytes
    obtain ⟨f, hf, hframes⟩ := frames_showBitmap bitmap
    rw [hframes] at hfirst
    rcases List.prefix_cons_iff.mp hfirst with rfl | ⟨rest, rfl, hrest⟩
    · exact .inl rfl
    · rw [List.prefix_nil.mp hrest]
      have hfront : (p.handle [f]).front = bitmap :=
        congrArg Firmware.front (Firmware.answer_bitmap hf)
      rw [hfront]
      exact .inr hbytes

/-- The first few frames of a bitmap in halves leave the front alone, unless the two sides are
exchanged, and then the bitmap is there. -/
theorem front_handle_showHalves (hfirst : first <+: (showHalves bytes).frames) (p : Firmware) :
    Frame.flip ∉ first ∧ (p.handle first).front = p.front ∧
        (p.handle first).flipCount = p.flipCount ∨
      Frame.flip ∈ first ∧ (showHalves bytes).image = some (p.handle first).front ∧
        (p.handle first).flipCount = p.flipCount + 1 := by
  cases hbytes : Bytes.ofList? panelWidth bytes with
  | none =>
    rw [(frames_of_ne (Bytes.ofList?_eq_none_iff.mp hbytes)).2] at hfirst
    rw [List.prefix_nil.mp hfirst]
    exact .inl ⟨List.not_mem_nil, rfl, rfl⟩
  | some bitmap =>
    obtain rfl := Bytes.ofList?_eq_some_iff.mp hbytes
    obtain ⟨f₁, f₂, hf₁, hf₂, hframes⟩ := frames_showHalves bitmap
    have hsplit : (showHalves bitmap.toList).frames = [f₁, f₂] ++ [Frame.flip] := hframes
    rw [hsplit] at hfirst
    rcases List.prefix_concat_iff.mp hfirst with rfl | hhalves
    · have hhandle : p.handle ([f₁, f₂] ++ [.flip]) = _ := Firmware.handle_halves hf₁ hf₂
      rw [hhandle]
      exact .inr ⟨List.mem_append_right _ List.mem_cons_self, hbytes, rfl⟩
    · have hboth : ∀ f ∈ [f₁, f₂], f.Behind := by
        refine List.forall_mem_cons.mpr ⟨?_, List.forall_mem_singleton.mpr ?_⟩
        · exact Frame.behind_of_opcode (Command.toFrame?_eq_ok_iff.mp hf₁).1 nofun nofun
        · exact Frame.behind_of_opcode (Command.toFrame?_eq_ok_iff.mp hf₂).1 nofun nofun
      have hbehind : ∀ f ∈ first, f.Behind := fun f hf => hboth f (hhalves.subset hf)
      exact .inl ⟨fun h => Frame.not_behind_flip (hbehind _ h), Firmware.handle_behind hbehind⟩

/-- The first few frames of an ordinary call leave the front or bring the call's image to it. -/
theorem front_handle (ordinary : call.Ordinary) (hfirst : first <+: call.frames) (p : Firmware) :
    (p.handle first).front = p.front ∨ call.image = some (p.handle first).front := by
  by_cases hbitmap : ∃ bytes, call = .showBitmap bytes
  · obtain ⟨bytes, rfl⟩ := hbitmap
    exact front_handle_showBitmap hfirst p
  by_cases hhalves : ∃ bytes, call = .showHalves bytes
  · obtain ⟨bytes, rfl⟩ := hhalves
    rcases front_handle_showHalves hfirst p with ⟨-, hfront, -⟩ | ⟨-, himage, -⟩
    · exact .inl hfront
    · exact .inr himage
  · have hbehind := behind_of_mem_frames ordinary (fun bytes h => hbitmap ⟨bytes, h⟩)
      fun bytes h => hhalves ⟨bytes, h⟩
    exact .inl (Firmware.handle_behind fun f hf => hbehind f (hfirst.subset hf)).1

/-- A bitmap in halves of a right size exchanges the two sides in the end. -/
theorem flip_mem_frames {requests : List Request} (h : (showHalves bytes).requests = .ok requests) :
    Frame.flip ∈ (showHalves bytes).frames := by
  cases hbytes : Bytes.ofList? panelWidth bytes with
  | none =>
    rw [Call.requests, if_neg (Bytes.ofList?_eq_none_iff.mp hbytes)] at h
    cases h
  | some bitmap =>
    obtain rfl := Bytes.ofList?_eq_some_iff.mp hbytes
    obtain ⟨f₁, f₂, -, -, hframes⟩ := frames_showHalves bitmap
    rw [hframes]
    exact List.mem_append_right [f₁, f₂] List.mem_cons_self

end Call

/-! ## Whole images on an unsteady line -/

/-- Everything the panel shows and has shown is as wanted. -/
structure UnsteadyLine.Shows (P : Bitmap → Prop) (t : UnsteadyLine) : Prop where
  /-- the panel waits for an opcode -/
  idle : t.line.reader = .idle
  /-- the panel shows it -/
  front : P t.line.panel.front
  /-- the panel has shown it -/
  shown : ∀ bitmap ∈ t.shown, P bitmap

namespace UnsteadyLine.Shows

variable {P : Bitmap → Prop} {t : UnsteadyLine}

/-- An ordinary call shows what was shown before, or its own image. -/
theorem call (h : t.Shows P) {call : Call} (ordinary : call.Ordinary)
    (himage : ∀ bitmap, call.image = some bitmap → P bitmap) :
    (call.perform (⟨t⟩ : UnsteadyLink)).2.channel.Shows P := by
  obtain ⟨result, t', frames, hperform, hmoved, hframes, -⟩ := call_moved h.idle call
  have hprefix {first : List Frame} (hfirst : first <+: frames) :
      P (t.line.panel.handle first).front := by
    rcases Call.front_handle ordinary (hfirst.trans hframes) t.line.panel with hfront | hfront
    · rw [hfront]
      exact h.front
    · exact himage _ hfront
  rw [hperform]
  refine ⟨hmoved.idle, ?_, fun bitmap hmem => ?_⟩
  · rw [hmoved.panel.front]
    exact hprefix (List.prefix_refl frames)
  · rcases hmoved.shown bitmap hmem with hmem | ⟨first, hfirst, rfl⟩
    · exact h.shown bitmap hmem
    · exact hprefix hfirst

/-- So do any number of ordinary calls. -/
theorem course (calls : List Call) (h : t.Shows P) (ordinary : ∀ call ∈ calls, call.Ordinary)
    (himage : ∀ call ∈ calls, ∀ bitmap, call.image = some bitmap → P bitmap) :
    (UnsteadyLink.course calls ⟨t⟩).channel.Shows P := by
  induction calls generalizing t with
  | nil => exact h
  | cons first rest ih =>
    have hfirst := h.call (ordinary first List.mem_cons_self) (himage first List.mem_cons_self)
    exact ih hfirst (fun call hmem => ordinary call (List.mem_cons_of_mem first hmem))
      fun call hmem => himage call (List.mem_cons_of_mem first hmem)

end UnsteadyLine.Shows

/-- A bitmap in halves comes to the front whole if the call succeeds. If it fails, the front is as
it was, unless the exchange of the two sides has reached the panel, and then the bitmap is there. -/
theorem showHalves_whole {t : UnsteadyLine} (hidle : t.line.reader = .idle) (bytes : List UInt8) :
    ∃ result t' frames, (Call.showHalves bytes).perform (⟨t⟩ : UnsteadyLink) = (result, ⟨t'⟩) ∧
      t'.delivered = t.delivered ++ frames ∧
      (result = .ok () → t'.line.panel.front.toList = bytes ∧
        t'.line.panel.flipCount = t.line.panel.flipCount + 1) ∧
      ∀ e, result = .error e →
        (Frame.flip ∈ frames → t'.line.panel.front.toList = bytes) ∧
          (Frame.flip ∉ frames → t'.line.panel.front = t.line.panel.front ∧
            t'.line.panel.flipCount = t.line.panel.flipCount) := by
  obtain ⟨result, t', frames, hperform, hmoved, hframes, hok⟩ :=
    UnsteadyLine.call_moved hidle (.showHalves bytes)
  refine ⟨result, t', frames, hperform, hmoved.delivered, ?_⟩
  rw [hmoved.panel.front, hmoved.panel.flipCount]
  rcases Call.front_handle_showHalves hframes t.line.panel with
    ⟨hnone, hfront, hflips⟩ | ⟨hflip, himage, hflips⟩
  · refine ⟨fun hresult => ?_, fun _ _ => ⟨fun h => absurd h hnone, fun _ => ⟨hfront, hflips⟩⟩⟩
    obtain ⟨rfl, requests, hrequests⟩ := hok hresult
    exact absurd (Call.flip_mem_frames hrequests) hnone
  · have hfront := (Bytes.ofList?_eq_some_iff.mp himage).symm
    exact ⟨fun _ => ⟨hfront, hflips⟩, fun _ _ => ⟨fun _ => hfront, fun h => absurd hflip h⟩⟩

/-- No torn images. Whatever an unsteady line does to ordinary calls, the panel has never shown
anything but its first bitmap and whole images of these calls; as this goes for the first few calls
too, no image was shown before its call. A bitmap in halves is at the front if its call succeeds,
after one exchange of the two sides. If the call fails, the front is as it was, unless the exchange
has reached the panel, and then the bitmap is there. -/
theorem shown_whole (p : Firmware) (moments : Nat → Moment) (calls : List Call)
    (ordinary : ∀ call ∈ calls, call.Ordinary) :
    let link := (UnsteadyLink.start p moments).course calls
    (∀ bitmap ∈ link.panel.front :: link.shown,
        bitmap = p.front ∨ ∃ call ∈ calls, call.image = some bitmap) ∧
      ∀ bytes, ∃ result link' frames, (Call.showHalves bytes).perform link = (result, link') ∧
        link'.delivered = link.delivered ++ frames ∧
        (result = .ok () → link'.panel.front.toList = bytes ∧
          link'.panel.flipCount = link.panel.flipCount + 1) ∧
        ∀ e, result = .error e →
          (Frame.flip ∈ frames → link'.panel.front.toList = bytes) ∧
            (Frame.flip ∉ frames → link'.panel.front = link.panel.front ∧
              link'.panel.flipCount = link.panel.flipCount) := by
  intro link
  have hstart : (UnsteadyLine.ofPanel p moments).Shows fun bitmap =>
      bitmap = p.front ∨ ∃ call ∈ calls, call.image = some bitmap :=
    ⟨rfl, .inl rfl, fun bitmap hmem => .inl (List.mem_singleton.mp hmem)⟩
  have hcourse :=
    hstart.course calls ordinary fun call hmem bitmap himage => .inr ⟨call, hmem, himage⟩
  refine ⟨fun bitmap hmem => ?_, fun bytes => ?_⟩
  · rcases List.mem_cons.mp hmem with rfl | hmem
    · exact hcourse.front
    · exact hcourse.shown bitmap hmem
  · obtain ⟨result, t', frames, h⟩ := showHalves_whole hcourse.idle bytes
    exact ⟨result, ⟨t'⟩, frames, h⟩

/-- A bitmap of which the panel does not say that it has it, and then another one in halves, the
second of which is lost. The first one stays. -/
theorem shown_whole_lost_half :
    let old : Bitmap := .replicate panelWidth 1
    let new : Bitmap := .replicate panelWidth 2
    let calls := [Call.showBitmap old.toList, .showHalves new.toList]
    let moments : Nat → Moment := fun n => ⟨n ≠ 0, if n = 8 then some .disconnected else none⟩
    let link := (UnsteadyLink.start (.new 0) moments).course calls
    (∀ call ∈ calls, call.Ordinary) ∧
      (∀ bitmap ∈ link.shown, bitmap = .dark ∨ bitmap = old ∨ bitmap = new) ∧
      link.panel.front = old := by
  have ordinary (a b : List UInt8) : ∀ call ∈ [Call.showBitmap a, .showHalves b], call.Ordinary :=
    List.forall_mem_cons.mpr ⟨trivial, List.forall_mem_singleton.mpr trivial⟩
  refine ⟨ordinary _ _, fun bitmap hmem => ?_, by decide +kernel⟩
  obtain ⟨hshown, -⟩ := shown_whole _ _ _ (ordinary _ _)
  rcases hshown bitmap (List.mem_cons_of_mem _ hmem) with hdark | ⟨call, hcall, himage⟩
  · exact .inl hdark
  · rcases List.mem_cons.mp hcall with rfl | hcall
    · exact .inr (.inl (Bytes.ext (Bytes.ofList?_eq_some_iff.mp himage).symm))
    · obtain rfl := List.mem_singleton.mp hcall
      exact .inr (.inr (Bytes.ext (Bytes.ofList?_eq_some_iff.mp himage).symm))

end Marquee
