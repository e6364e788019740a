import Marquee.Link.Calls
import Marquee.Proofs.Link.Attempt

/-!
# A call is made of exchanges

Whatever a call does to a link, it does by exchanges. So whatever exchanges keep, calls keep
(`Call.perform_keeps`), and links that cannot be told apart by exchanges cannot be told apart by
calls (`Call.perform_related`). In particular nobody can tell that a call is recorded
(`Recorder.perform_link`).
-/

namespace Marquee

variable {ℓ ℓ' : Type} [Link ℓ] [Link ℓ'] {R : ℓ → ℓ' → Prop}

/-- On related links exchanges answer the same and leave related links behind. -/
def Link.Related (R : ℓ → ℓ' → Prop) : Prop :=
  ∀ opcode payload, Attempt.Related R (Link.exchange opcode payload) (Link.exchange opcode payload)

namespace Link.Related

theorem send (h : Link.Related R) (command : Command) :
    Attempt.Related R (Link.send command) (Link.send command) :=
  (Attempt.related_lift _).bind fun _ => h _ _

theorem tell (h : Link.Related R) (command : Command) :
    Attempt.Related R (Link.tell command) (Link.tell command) :=
  (h.send command).bind fun _ => Attempt.related_pure ()

theorem askIdentity (h : Link.Related R) :
    Attempt.Related R Link.askIdentity Link.askIdentity := by
  refine (h.send .askId).bind fun answer => ?_
  split
  · exact Attempt.related_pure _
  · exact Attempt.related_throw _

theorem showText (h : Link.Related R) (text : String) (x y : Int) :
    Attempt.Related R (Link.showText text x y) (Link.showText text x y) :=
  (Attempt.related_lift _).bind fun _ => (Attempt.related_lift _).bind fun _ =>
    (Attempt.related_lift _).bind fun _ => h.tell _

theorem showBitmap (h : Link.Related R) (bytes : List UInt8) :
    Attempt.Related R (Link.showBitmap bytes) (Link.showBitmap bytes) :=
  (Attempt.related_lift _).bind fun _ => h.tell _

theorem showHalves (h : Link.Related R) (bytes : List UInt8) :
    Attempt.Related R (Link.showHalves bytes) (Link.showHalves bytes) :=
  (Attempt.related_lift _).bind fun _ => (h.tell _).bind fun _ => (h.tell _).bind fun _ =>
    h.tell .flip

end Link.Related

namespace Call

/-- Every call answers the same on related links and leaves related links behind. -/
theorem perform_related (h : Link.Related R) (call : Call) :
    Attempt.Related R call.perform call.perform := by
  cases call with
  | exchange opcode payload => exact (h opcode payload).bind fun _ => Attempt.related_pure ()
  | send command => exact h.tell command
  | askIdentity => exact h.askIdentity.bind fun _ => Attempt.related_pure ()
  | storeId id => exact h.tell (.storeId id)
  | switchRelay on => exact h.tell (.relay on)
  | showText text x y => exact h.showText text x y
  | showBitmap bytes => exact h.showBitmap bytes
  | flip => exact h.tell .flip
  | showHalves bytes => exact h.showHalves bytes
  | passThrough bytes => exact h.tell (.passThrough bytes)

/-- What every exchange keeps, every call keeps. -/
theorem perform_keeps {P : ℓ → Prop}
    (h : ∀ opcode payload link, P link → P (Link.exchange opcode payload link).2)
    (call : Call) {link : ℓ} (hlink : P link) : P (call.perform link).2 := by
  have related : Link.Related fun link link' : ℓ => link = link' ∧ P link := by
    rintro opcode payload link _ ⟨rfl, hbefore⟩
    exact ⟨rfl, rfl, h opcode payload link hbefore⟩
  exact (call.perform_related related ⟨rfl, hlink⟩).2.2

end Call

/-- A recorded exchange does what it does without the record. -/
theorem Recorder.exchange_eq {r : Recorder ℓ} {opcode : Opcode} {payload : List UInt8}
    {outcome : Except LinkError (List UInt8)} {link : ℓ}
    (h : Link.exchange opcode payload r.link = (outcome, link)) :
    Link.exchange opcode payload r =
      (outcome, ⟨link, r.log ++ [⟨r.link, opcode, payload, outcome⟩]⟩) := by
  change ((Link.exchange opcode payload r.link).1,
    Recorder.mk (Link.exchange opcode payload r.link).2
      (r.log ++ [⟨r.link, opcode, payload, (Link.exchange opcode payload r.link).1⟩])) = _
  rw [h]

/-- A recorded call does what it does without the record. -/
theorem Recorder.perform_link (call : Call) (r : Recorder ℓ) :
    (call.perform r).1 = (call.perform r.link).1 ∧
      (call.perform r).2.link = (call.perform r.link).2 := by
  have related : Link.Related fun (r : Recorder ℓ) (link : ℓ) => r.link = link := by
    rintro opcode payload r _ rfl
    exact ⟨rfl, rfl⟩
  exact call.perform_related related rfl

end Marquee
