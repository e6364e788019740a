import Marquee.Proofs.Text.Cut
import Marquee.Sign.Operation

/-!
# Messages measured as they are kept

Storing a text character by character keeps the longest beginning that there is room for, and stops
early exactly if there is no room for the whole text (`Text.store_eq`). So a message that is stored
step by step is the message that `holdMessage` holds (`storeMessage_eq`). An order for a message
asks for one width, that of the text which is kept, whatever asking does besides (`obeyBy_message`),
and leaves the sign as if this width had been known from the start (`message_measured_once`). With a
measure that only answers, every order comes to what `obey` says it does (`obeyBy_pure`).
-/

namespace Marquee

/-! ## Storing a text -/

namespace Text

variable {room : Nat} {stored : String} {c : Char}

theorem push?_of_le (h : byteCount stored + c.utf8Size ≤ room) :
    push? room stored c = some (stored.push c) := if_pos h

theorem push?_of_lt (h : room < byteCount stored + c.utf8Size) : push? room stored c = none :=
  if_neg (Nat.not_le.mpr h)

theorem push_append_ofList (stored : String) (c : Char) (rest : List Char) :
    stored.push c ++ String.ofList rest = stored ++ String.ofList (c :: rest) := by
  rw [String.push_eq_append, String.ofList_cons, String.append_assoc]

/-- From a text with some room left, the longest beginning that there is room for is added. -/
theorem store_append (held : byteCount stored ≤ room) (chars : List Char) :
    store room stored chars =
      (decide (room < byteCount stored + byteCount (String.ofList chars)),
        stored ++ String.ofList (fitting (room - byteCount stored) chars)) := by
  induction chars generalizing stored with
  | nil =>
    have hroom : ¬ room < byteCount stored + byteCount (String.ofList []) := Nat.not_lt.mpr held
    rw [store, decide_eq_false hroom, fitting, String.ofList_nil, String.append_empty]
  | cons c rest ih =>
    have hbytes : byteCount (stored.push c) = byteCount stored + c.utf8Size :=
      String.utf8ByteSize_push
    rw [store, byteCount_ofList_cons, fitting]
    rcases Nat.lt_or_ge room (byteCount stored + c.utf8Size) with hfull | hroom
    · have hover : room < byteCount stored + (c.utf8Size + byteCount (String.ofList rest)) := by
        omega
      have hlarge : ¬ c.utf8Size ≤ room - byteCount stored := by omega
      rw [push?_of_lt hfull, if_neg hlarge, decide_eq_true hover, String.ofList_nil,
        String.append_empty]
    · have hsmall : c.utf8Size ≤ room - byteCount stored := by omega
      have hleft : room - byteCount (stored.push c) = room - byteCount stored - c.utf8Size := by
        omega
      have hheld : byteCount (stored.push c) ≤ room := by omega
      have hrest := ih hheld
      rw [hleft, push_append_ofList, hbytes, Nat.add_assoc] at hrest
      rw [push?_of_le hroom, if_pos hsmall]
      exact hrest

theorem store_eq (room : Nat) (text : String) :
    store room "" text.toList = (decide (room < byteCount text), fit room text) := by
  rw [store_append (Nat.zero_le room), String.ofList_toList, String.empty_append]
  change (decide (room < 0 + byteCount text), fit room text) = _
  rw [Nat.zero_add]

end Text

/-! ## Holding and measuring a message -/

namespace Sign

theorem storeMessage_eq (c : Timings) (text : String) (width : UInt32) (nowMs : Nat) (s : Sign) :
    s.storeMessage c text width nowMs = s.holdMessage c text width nowMs := by
  rw [storeMessage, Text.store_eq]
  rfl

variable {m : Type → Type} [Monad m] [LawfulMonad m]

/-- A message is asked about once, as it is kept, and held with the width that this brings. -/
theorem obeyBy_message (c : Timings) (measure : String → m UInt32) (text : String) (nowMs : Nat)
    (s : Sign) :
    s.obeyBy c measure (.message text) nowMs = do
      let width ← measure (Text.fit maxMessage text)
      let (truncated, held) := s.holdMessage c text width nowMs
      return (.message truncated, held) := by
  have hmeasure : (s.holdMessage c text 0 nowMs).2.remeasureBy c measure =
      measure (Text.fit maxMessage text) >>= fun width =>
        pure (s.holdMessage c text width nowMs).2 := rfl
  rw [obeyBy, storeMessage_eq]
  calc _ = (s.holdMessage c text 0 nowMs).2.remeasureBy c measure >>= fun measured =>
        pure (SignChange.message (s.holdMessage c text 0 nowMs).1, measured) := rfl
    _ = _ := by
      simp only [hmeasure, bind_assoc, pure_bind]
      rfl

/-- An order is carried out step by step as it is all at once. -/
theorem obeyBy_pure (c : Timings) (measure : String → UInt32) (order : Order) (nowMs : Nat)
    (s : Sign) :
    s.obeyBy c (fun text => (pure (measure text) : m UInt32)) order nowMs =
      pure (s.obey c measure order nowMs) := by
  cases order with
  | power on => rfl
  | inversion on => rfl
  | message text =>
    rw [obeyBy_message, pure_bind]
    rfl

end Sign

/-- A message of any length is measured once, as it is kept. What is kept is the longest beginning
of the text that ends between two characters and has no more than 255 bytes. The sign is left as if
the message had been held with its width from the start: with this text, its end, its width, the
pace for this width and nothing scrolled out, and with all else as it was. It is reported as cut
exactly if the text has more than 255 bytes. Carried out step by step the order comes to the same;
the only text that is asked about is the one that is kept, and only once, even of a measure that has
a state and may answer otherwise the next time. -/
theorem message_measured_once (s : Sign) (c : Timings) (text : String) (nowMs : Nat) :
    let kept := Text.fit maxMessage text
    Text.Longest 255 text kept ∧
      (∀ measure : String → UInt32,
        let (change, after) := s.obey c measure (.message text) nowMs
        after = (s.holdMessage c text (measure kept) nowMs).2 ∧
          after.message = some ⟨kept, min (nowMs + c.lifetimeMs) lastMoment, measure kept,
            c.secondsPerColumn (measure kept)⟩ ∧
          after.scrolledOut = .zero ∧ after.powered = s.powered ∧ after.inverted = s.inverted ∧
          after.confirmed = s.confirmed ∧
          (∃ truncated, change = .message truncated ∧
            (truncated = true ↔ 255 < Text.byteCount text)) ∧
          ∀ asked, s.obeyBy c (Sign.noting measure) (.message text) nowMs asked =
            ((change, after), asked ++ [kept])) ∧
      ∀ (σ : Type) (measure : String → StateM σ UInt32) (t : σ),
        s.obeyBy c measure (.message text) nowMs t =
          let (width, t') := measure kept t
          let (truncated, held) := s.holdMessage c text width nowMs
          ((.message truncated, held), t') := by
  intro kept
  refine ⟨Text.longest_fit 255 text, fun measure => ?_, fun σ measure t => ?_⟩
  · refine ⟨rfl, rfl, rfl, rfl, rfl, rfl, ⟨_, rfl, decide_eq_true_iff⟩, fun asked => ?_⟩
    rw [Sign.obeyBy_message]
    rfl
  · rw [Sign.obeyBy_message]
    rfl

end Marquee
