import Marquee.Link.Request
import Marquee.Proofs.Link.Line

/-!
# Calls as requests

On any link, a call with arguments in bounds is the exchange of its requests
(`perform_eq_exchangeAll`), and a call with arguments out of bounds fails before anything is
exchanged (`perform_of_error`). Two calls need a closer look: a question for the identity also
checks the length of the answer, and a bare exchange leaves the check of its payload to the link.
-/

namespace Marquee

namespace Request

variable {opcode : Opcode} {bytes : List UInt8}

theorem of?_of_le (fits : bytes.length ≤ maxPayload) :
    of? opcode bytes = .ok ⟨opcode, ⟨bytes, fits⟩⟩ := dif_pos fits

theorem of?_of_lt (large : maxPayload < bytes.length) :
    of? opcode bytes = .error .payloadTooLarge := dif_neg (Nat.not_le.mpr large)

theorem only?_of_le (fits : bytes.length ≤ maxPayload) :
    only? opcode bytes = .ok [⟨opcode, ⟨bytes, fits⟩⟩] := by
  rw [only?, of?_of_le fits]
  rfl

/-- Data that does not fit a frame makes no request. -/
theorem only?_of_lt (large : maxPayload < bytes.length) :
    only? opcode bytes = .error .payloadTooLarge := by
  rw [only?, of?_of_lt large]
  rfl

/-- A single request has the opcode that it was made with. -/
theorem opcode_of_only? {requests : List Request} (h : only? opcode bytes = .ok requests) :
    ∀ r ∈ requests, r.opcode = opcode := by
  intro r hr
  rcases Nat.lt_or_ge maxPayload bytes.length with large | fits
  · rw [only?_of_lt large] at h
    cases h
  · rw [only?_of_le fits] at h
    cases h
    rw [List.mem_singleton.mp hr]

/-- A request has a frame. -/
theorem new?_frame (r : Request) : Frame.new? r.opcode.toByte r.payload.toList = .ok r.frame :=
  Frame.new?_eq_ok_iff.mpr ⟨rfl, rfl⟩

end Request

namespace Link

variable {ℓ : Type} [Link ℓ]

/-- A command is a single request. -/
theorem tell_eq_carry (c : Command) :
    (tell c : Attempt ℓ LinkError Unit) = carry (Request.only? c.opcode c.payloadBytes) := by
  rcases Nat.lt_or_ge maxPayload c.payloadBytes.length with large | fits
  · have hframe : frameOf c = .error (.argument .payloadTooLarge) := by
      rw [frameOf, Command.toFrame?, Frame.new?, Payload.ofList?_of_lt large]
      rfl
    rw [Request.only?_of_lt large, tell, send, hframe]
    rfl
  · have hframe : frameOf c = .ok ⟨c.opcode.toByte, ⟨c.payloadBytes, fits⟩⟩ := by
      rw [frameOf, Command.toFrame?, Frame.new?, Payload.ofList?_of_le fits]
      rfl
    rw [Request.only?_of_le fits, tell, send, hframe]
    rfl

theorem signedByte_of_fits {value : Int} (h : FitsSignedByte value) :
    signedByte value = .ok (Int8.ofInt value) := if_pos h

/-- A coordinate that is no signed byte is turned away. -/
theorem signedByte_of_not_fits {value : Int} (h : ¬ FitsSignedByte value) :
    signedByte value = .error (.argument (.coordinateOutOfRange value)) := if_neg h

/-- Showing a text checks the arguments in order and then makes one request. -/
theorem showText_eq_carry (text : String) (x y : Int) :
    (showText text x y : Attempt ℓ LinkError Unit) = carry (Call.showText text x y).requests := by
  rw [showText, Call.requests]
  by_cases long : maxPanelText < text.utf8ByteSize
  · rw [fittingText, if_neg (Nat.not_le.mpr long), if_pos long]
    rfl
  rw [fittingText, if_pos (Nat.not_lt.mp long), if_neg long]
  by_cases hx : FitsSignedByte x
  · rw [signedByte_of_fits hx, if_pos hx]
    by_cases hy : FitsSignedByte y
    · rw [signedByte_of_fits hy, if_pos hy]
      exact tell_eq_carry (.text (Int8.ofInt x) (Int8.ofInt y) (Text.utf8 text))
    · rw [signedByte_of_not_fits hy, if_neg hy]
      rfl
  · rw [signedByte_of_not_fits hx, if_neg hx]
    rfl

theorem wholeBitmap_of_eq {bytes : List UInt8} (h : bytes.length = panelWidth) :
    wholeBitmap bytes = .ok ⟨bytes, h⟩ := wholeBitmap_toList ⟨bytes, h⟩

/-- A bitmap of another length is turned away. -/
theorem wholeBitmap_of_ne {bytes : List UInt8} (h : bytes.length ≠ panelWidth) :
    wholeBitmap bytes = .error (.argument (.bitmapLength panelWidth bytes.length)) := by
  rw [wholeBitmap, Bytes.ofList?_eq_none_iff.mpr h]

/-- Replacing the shown bitmap checks its length and then makes one request. -/
theorem showBitmap_eq_carry (bytes : List UInt8) :
    (showBitmap bytes : Attempt ℓ LinkError Unit) = carry (Call.showBitmap bytes).requests := by
  rw [showBitmap, Call.requests]
  by_cases h : bytes.length = panelWidth
  · rw [wholeBitmap_of_eq h, if_pos h]
    exact tell_eq_carry (.bitmap bytes)
  · rw [wholeBitmap_of_ne h, if_neg h]
    rfl

/-- Requests in a row are made one part after the other. -/
theorem exchangeAll_append (requests more : List Request) :
    (exchangeAll (requests ++ more) : Attempt ℓ LinkError Unit) =
      exchangeAll requests >>= fun _ => exchangeAll more := by
  induction requests with
  | nil => rfl
  | cons r rest ih =>
    rw [List.cons_append, exchangeAll, exchangeAll, ih, bind_assoc]

/-- The halves of a whole bitmap fit frames. -/
theorem halves_fit {bytes : List UInt8} (h : bytes.length = panelWidth) :
    (bytes.take halfWidth).length ≤ maxPayload ∧ (bytes.drop halfWidth).length ≤ maxPayload := by
  rw [List.length_take, List.length_drop, h]
  decide

/-- Writing a bitmap in halves checks its length and then makes three requests. -/
theorem showHalves_eq_carry (bytes : List UInt8) :
    (showHalves bytes : Attempt ℓ LinkError Unit) = carry (Call.showHalves bytes).requests := by
  rw [showHalves, Call.requests]
  by_cases h : bytes.length = panelWidth
  · obtain ⟨hfirst, hsecond⟩ := halves_fit h
    have htell₁ := tell_eq_carry (ℓ := ℓ) (.firstHalf (bytes.take halfWidth))
    have htell₂ := tell_eq_carry (ℓ := ℓ) (.secondHalf (bytes.drop halfWidth))
    have htell₃ := tell_eq_carry (ℓ := ℓ) .flip
    rw [Command.payloadBytes, Request.only?_of_le hfirst] at htell₁
    rw [Command.payloadBytes, Request.only?_of_le hsecond] at htell₂
    rw [wholeBitmap_of_eq h, if_pos h, Request.of?_of_le hfirst, Request.of?_of_le hsecond]
    calc _ = (tell (.firstHalf (bytes.take halfWidth)) >>= fun _ =>
            tell (.secondHalf (bytes.drop halfWidth)) >>= fun _ => tell .flip) := rfl
      _ = (exchangeAll [⟨.firstHalf, ⟨bytes.take halfWidth, hfirst⟩⟩] >>= fun _ =>
            exchangeAll [⟨.secondHalf, ⟨bytes.drop halfWidth, hsecond⟩⟩] >>= fun _ =>
              exchangeAll [⟨.flip, .empty⟩]) := by
        rw [htell₁, htell₂, htell₃]
        rfl
      _ = _ := by
        rw [← exchangeAll_append, ← exchangeAll_append]
        rfl
  · rw [wholeBitmap_of_ne h, if_neg h]
    rfl

/-- A panel tells its identity by answering the question for it with one byte. -/
theorem askIdentity_eq_ok_iff {link link' : ℓ} {id : UInt8} :
    askIdentity link = (.ok id, link') ↔ exchange .askId [] link = (.ok [id], link') := by
  have hsend : send .askId link = exchange .askId [] link := rfl
  rw [askIdentity, Attempt.bind_apply, hsend]
  rcases exchange .askId [] link with ⟨e | answer, after⟩
  · exact iff_of_false nofun nofun
  · match answer with
    | [] => exact iff_of_false nofun nofun
    | [told] =>
      constructor
      · rintro ⟨⟩
        rfl
      · rintro ⟨⟩
        rfl
    | _ :: _ :: _ => exact iff_of_false nofun nofun

end Link

namespace Call

variable {ℓ : Type} [Link ℓ] {call : Call}

/-- A call sends the frames of its requests. -/
theorem frames_of_ok {requests : List Request} (h : call.requests = .ok requests) :
    call.frames = requests.map Request.frame := by
  rw [frames, h]

/-- All calls but two check their arguments, and then make their requests and nothing else. -/
theorem perform_eq_carry (hask : call ≠ .askIdentity)
    (hexchange : ∀ opcode payload, call ≠ .exchange opcode payload) :
    (call.perform : Attempt ℓ LinkError Unit) = Link.carry call.requests := by
  cases call with
  | exchange opcode payload => exact absurd rfl (hexchange opcode payload)
  | askIdentity => exact absurd rfl hask
  | send command => exact Link.tell_eq_carry command
  | storeId id => exact Link.tell_eq_carry (.storeId id)
  | switchRelay on => exact Link.tell_eq_carry (.relay on)
  | showText text x y => exact Link.showText_eq_carry text x y
  | showBitmap bytes => exact Link.showBitmap_eq_carry bytes
  | flip => exact Link.tell_eq_carry .flip
  | showHalves bytes => exact Link.showHalves_eq_carry bytes
  | passThrough bytes => exact Link.tell_eq_carry (.passThrough bytes)

/-- A call with arguments in bounds exchanges its requests. -/
theorem perform_eq_exchangeAll {requests : List Request} (h : call.requests = .ok requests)
    (hask : call ≠ .askIdentity) :
    (call.perform : Attempt ℓ LinkError Unit) = Link.exchangeAll requests := by
  by_cases hexchange : ∃ opcode payload, call = .exchange opcode payload
  · obtain ⟨opcode, payload, rfl⟩ := hexchange
    rcases Nat.lt_or_ge maxPayload payload.length with large | fits
    · rw [Call.requests, Request.only?_of_lt large] at h
      cases h
    · rw [Call.requests, Request.only?_of_le fits] at h
      cases h
      rfl
  · rw [perform_eq_carry hask fun opcode payload he => hexchange ⟨opcode, payload, he⟩, h]
    rfl

/-- A call that is turned away fails at once, unless it leaves the check to the link. -/
theorem perform_of_error {e : ArgumentError} (h : call.requests = .error e) :
    (call.perform : Attempt ℓ LinkError Unit) = throw (.argument e) ∨
      ∃ opcode payload, call = .exchange opcode payload ∧ maxPayload < payload.length ∧
        e = .payloadTooLarge := by
  by_cases hexchange : ∃ opcode payload, call = .exchange opcode payload
  · obtain ⟨opcode, payload, rfl⟩ := hexchange
    rcases Nat.lt_or_ge maxPayload payload.length with large | fits
    · rw [Call.requests, Request.only?_of_lt large] at h
      cases h
      exact .inr ⟨opcode, payload, rfl, large, rfl⟩
    · rw [Call.requests, Request.only?_of_le fits] at h
      cases h
  · have hask : call ≠ .askIdentity := by
      rintro rfl
      cases h
    rw [perform_eq_carry hask fun opcode payload he => hexchange ⟨opcode, payload, he⟩, h]
    exact .inl rfl

/-- A question for the identity that brings one byte, or fails, is a single request. -/
theorem perform_askIdentity {link link' : ℓ} {outcome : Except LinkError (List UInt8)}
    (h : Link.exchange .askId [] link = (outcome, link'))
    (hbyte : ∀ answer, outcome = .ok answer → ∃ id, answer = [id]) :
    perform .askIdentity link = Link.exchangeAll [⟨.askId, .empty⟩] link := by
  have hsend : Link.send .askId link = (outcome, link') := h
  cases outcome with
  | error e =>
    have hid : Link.askIdentity link = (.error e, link') := Attempt.bind_of_error hsend
    have hall : Link.exchangeAll [⟨.askId, .empty⟩] link = (.error e, link') :=
      Attempt.bind_of_error h
    rw [hall]
    exact Attempt.bind_of_error hid
  | ok answer =>
    obtain ⟨id, rfl⟩ := hbyte answer rfl
    have hid : Link.askIdentity link = (.ok id, link') := Attempt.bind_of_ok hsend
    have hall : Link.exchangeAll [⟨.askId, .empty⟩] link = (.ok (), link') :=
      Attempt.bind_of_ok h
    rw [hall]
    exact Attempt.bind_of_ok hid

/-- A question for the identity does to a link what its single request does, and succeeds only if
that one succeeds. -/
theorem perform_askIdentity_snd (link : ℓ) :
    (perform .askIdentity link).2 = (Link.exchangeAll [⟨.askId, .empty⟩] link).2 ∧
      ((perform .askIdentity link).1 = .ok () →
        (Link.exchangeAll [⟨.askId, .empty⟩] link).1 = .ok ()) := by
  rcases h : Link.exchange .askId [] link with ⟨outcome, link'⟩
  by_cases hbyte : ∀ answer, outcome = .ok answer → ∃ id, answer = [id]
  · rw [perform_askIdentity h hbyte]
    exact ⟨rfl, id⟩
  · cases outcome with
    | error e => exact absurd (fun answer hok => nomatch hok) hbyte
    | ok answer =>
      -- The answer is not one byte, so that the question fails after all.
      have hsend : Link.send .askId link = (.ok answer, link') := h
      have hid : Link.askIdentity link = (.error (.exchange
          (.unexpectedResponse Opcode.askId.toByte answer.length)), link') := by
        rw [Link.askIdentity, Attempt.bind_of_ok hsend]
        split
        · rename_i id
          exact absurd (fun answer hok => ⟨id, (Except.ok.inj hok).symm⟩) hbyte
        · rfl
      have hall : Link.exchangeAll [⟨.askId, .empty⟩] link = (.ok (), link') :=
        Attempt.bind_of_ok h
      have hperform : perform .askIdentity link = _ := Attempt.bind_of_error hid
      rw [hall, hperform]
      exact ⟨rfl, nofun⟩

end Call

/-- On a byte channel every call checks its arguments before anything is written. -/
theorem ChannelLink.perform_of_error {σ : Type} [Channel σ] {call : Call} {e : ArgumentError}
    (h : call.requests = .error e) (link : ChannelLink σ) :
    call.perform link = (.error (.argument e), link) := by
  rcases Call.perform_of_error (ℓ := ChannelLink σ) h with
    hthrow | ⟨opcode, payload, rfl, large, rfl⟩
  · rw [hthrow]
    rfl
  · have hnew : Frame.new? opcode.toByte payload = .error .payloadTooLarge := by
      rw [Frame.new?, Payload.ofList?_of_lt large]
      rfl
    exact Attempt.bind_of_error (exchange_of_unfit hnew)

end Marquee
