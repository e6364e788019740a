import Marquee.Proofs.Text.Utf8
import Marquee.Sign.Order

/-!
# Which bus messages are orders

Every order has one topic and one payload that it comes with, and a bus message is read as an order
exactly if it has these (`Order.of?_eq_ok_iff`).
-/

namespace Marquee

theorem switchOf?_eq_ok_iff {payload : List UInt8} {on : Bool} :
    switchOf? payload = .ok on ↔ payload = Text.utf8 (switchPayload on) := by
  have hdiffer : Text.utf8 (switchPayload false) ≠ Text.utf8 (switchPayload true) := by decide
  rw [switchOf?]
  by_cases htrue : payload = Text.utf8 (switchPayload true)
  · rw [if_pos htrue]
    cases on <;> simp [htrue, hdiffer.symm]
  · rw [if_neg htrue]
    by_cases hfalse : payload = Text.utf8 (switchPayload false)
    · rw [if_pos hfalse]
      cases on <;> simp [hfalse, hdiffer]
    · rw [if_neg hfalse]
      cases on <;> simp [htrue, hfalse]

namespace Order

/-- The topic that the order comes on. -/
def topic : Order → String
  | .power _ => Topic.powerOrder
  | .inversion _ => Topic.inversionOrder
  | .message _ => Topic.message

/-- The payload that the order comes with. -/
def payload : Order → List UInt8
  | .power on => Text.utf8 (switchPayload on)
  | .inversion on => Text.utf8 (switchPayload on)
  | .message text => Text.utf8 text

/-- A bus message is read as an order exactly if it has the topic and the payload of the order. -/
theorem of?_eq_ok_iff {t : String} {bytes : List UInt8} {order : Order} :
    of? t bytes = .ok order ↔ t = order.topic ∧ bytes = order.payload := by
  have hswitch (make : Bool → Order) : (switchOf? bytes).map make = .ok order ↔
      ∃ on, bytes = Text.utf8 (switchPayload on) ∧ make on = order := by
    simp only [← switchOf?_eq_ok_iff]
    cases switchOf? bytes <;> simp [Except.map]
  rw [of?]
  by_cases hpower : t = Topic.powerOrder
  · rw [if_pos hpower, hswitch]
    subst hpower
    cases order <;> simp [topic, payload, Topic.powerOrder, Topic.inversionOrder, Topic.message]
  · rw [if_neg hpower]
    by_cases hinversion : t = Topic.inversionOrder
    · rw [if_pos hinversion, hswitch]
      subst hinversion
      cases order <;> simp [topic, payload, Topic.powerOrder, Topic.inversionOrder, Topic.message]
    · rw [if_neg hinversion]
      by_cases hmessage : t = Topic.message
      · rw [if_pos hmessage]
        subst hmessage
        cases hread : Text.ofUtf8? bytes with
        | none =>
          have hnot := Text.ofUtf8?_eq_none_iff.mp hread
          cases order <;>
            simp [topic, payload, Topic.powerOrder, Topic.inversionOrder, Topic.message, hnot]
        | some text =>
          obtain rfl := Text.ofUtf8?_eq_some_iff.mp hread
          cases order <;>
            simp [topic, payload, Topic.powerOrder, Topic.inversionOrder, Topic.message,
              Text.utf8_inj]
      · rw [if_neg hmessage]
        cases order <;> simp [topic, hpower, hinversion, hmessage]

end Order

end Marquee
