import Marquee.Link.Basic

/-!
# Calls and what they exchange

All calls on a panel as data, so that a series of calls can be talked about. A `Recorder` is a
link that behaves as the link behind it and keeps a record of every exchange.
-/

namespace Marquee

/-- A call on a panel. -/
inductive Call
  /-- any opcode with any payload -/
  | exchange (opcode : Opcode) (payload : List UInt8)
  /-- a command with its data -/
  | send (command : Command)
  /-- asks for the identity -/
  | askIdentity
  /-- stores an identity -/
  | storeId (id : UInt8)
  /-- switches the relay -/
  | switchRelay (on : Bool)
  /-- shows a text at a place -/
  | showText (text : String) (x y : Int)
  /-- replaces the shown bitmap -/
  | showBitmap (bytes : List UInt8)
  /-- shows the hidden bitmap -/
  | flip
  /-- writes the hidden bitmap in two halves and shows it -/
  | showHalves (bytes : List UInt8)
  /-- passes bytes through to the auxiliary output -/
  | passThrough (bytes : List UInt8)

/-- Makes a call. What it answers is of no interest here, only whether it fails. -/
def Call.perform {ℓ : Type} [Link ℓ] : Call → Attempt ℓ LinkError Unit
  | .exchange opcode payload => do let _ ← Link.exchange opcode payload
  | .send command => Link.tell command
  | .askIdentity => do let _ ← Link.askIdentity
  | .storeId id => Link.storeId id
  | .switchRelay on => Link.switchRelay on
  | .showText text x y => Link.showText text x y
  | .showBitmap bytes => Link.showBitmap bytes
  | .flip => Link.flip
  | .showHalves bytes => Link.showHalves bytes
  | .passThrough bytes => Link.passThrough bytes

/-! ## Records -/

/-- One exchange. -/
structure ExchangeRecord (ℓ : Type) where
  /-- the link before the exchange -/
  before : ℓ
  /-- the opcode that was to be sent -/
  opcode : Opcode
  /-- the payload that was to be sent -/
  payload : List UInt8
  /-- what the exchange brought -/
  outcome : Except LinkError (List UInt8)

/-- A link and the exchanges on it so far, oldest first. -/
structure Recorder (ℓ : Type) where
  /-- the link -/
  link : ℓ
  /-- the exchanges so far -/
  log : List (ExchangeRecord ℓ)

namespace Recorder

variable {ℓ : Type}

/-- A link with nothing recorded yet. -/
def ofLink (link : ℓ) : Recorder ℓ := ⟨link, []⟩

/-- Changes the link without an exchange. -/
def mapLink (f : ℓ → ℓ) (r : Recorder ℓ) : Recorder ℓ := { r with link := f r.link }

instance [Link ℓ] : Link (Recorder ℓ) where
  exchange opcode payload := fun r =>
    let (outcome, link) := Link.exchange opcode payload r.link
    (outcome, ⟨link, r.log ++ [⟨r.link, opcode, payload, outcome⟩]⟩)
  takeRemarks r :=
    let (remarks, link) := Link.takeRemarks r.link
    (remarks, { r with link := link })

end Recorder

end Marquee
