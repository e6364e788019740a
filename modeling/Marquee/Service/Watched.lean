import Marquee.Service.PanelSide

/-!
# A panel side under watch

A panel side keeps no account of the calls that it makes on its panels. `Watched` is a panel side
with such an account: it ticks in the same way, and whenever a call goes out to a panel the call is
noted with its answer. Each link could keep an account of its own, but three links share nothing,
and no link knows in which order the panels were called; so there is one account for all of them.
`CallsMade` says what an account has to do with the links.
-/

namespace Marquee

/-- A call that a tick makes on a panel. -/
inductive PanelCall
  /-- switches the relay -/
  | relay (on : Bool)
  /-- writes a bitmap in two halves and shows it -/
  | image (bitmap : Bitmap)
deriving DecidableEq

/-- Makes the call. -/
def PanelCall.perform {ℓ : Type} [Link ℓ] : PanelCall → Attempt ℓ LinkError Unit
  | .relay on => Link.switchRelay on
  | .image bitmap => Link.showHalves bitmap.toList

/-- A call that was made. -/
structure CallNote where
  /-- the place of the panel -/
  place : Fin 3
  /-- what it was called for -/
  call : PanelCall
  /-- the link reported success -/
  succeeded : Bool
deriving DecidableEq

/-- The noted calls lead from some panels to others: they are made one after another, each on the
link that the calls before it have left at its place, and a note has the answer of that link. -/
inductive CallsMade {ℓ : Type} [Link ℓ] : Trio ℓ → List CallNote → Trio ℓ → Prop
  /-- without a call the panels stay as they are -/
  | none (panels : Trio ℓ) : CallsMade panels [] panels
  /-- a call is made, and what its link says is taken, before the other calls -/
  | next {panels last : Trio ℓ} {place : Fin 3} {call : PanelCall} {rest : List CallNote}
    {answer : Except LinkError Unit} {link : ℓ}
    (made : call.perform (panels.get place) = (answer, link))
    (later : CallsMade (panels.set place (Link.takeRemarks link).2) rest last) :
    CallsMade panels (⟨place, call, answer.isOk⟩ :: rest) last

/-- A panel side and the calls it has made, oldest first. -/
structure Watched (ℓ β : Type) where
  /-- the panel side -/
  side : PanelSide ℓ β
  /-- the calls -/
  calls : List CallNote

namespace Watched

variable {ℓ β : Type}

/-- Changes the panel side without a call. -/
def map (f : PanelSide ℓ β → PanelSide ℓ β) (w : Watched ℓ β) : Watched ℓ β :=
  { w with side := f w.side }

section Panels

variable [Link ℓ]

/-- Calls the panel at a place and notes it. No panel is called in another way. -/
def call (place : Fin 3) (call : PanelCall) (w : Watched ℓ β) :
    Except LinkError Unit × Watched ℓ β :=
  let (answer, side) := w.side.call place call.perform
  (answer, ⟨side, w.calls ++ [⟨place, call, answer.isOk⟩]⟩)

/-- Switches the relay. -/
def switchRelay (on : Bool) (w : Watched ℓ β) : Except LinkError Unit × Watched ℓ β :=
  match w.call PanelSide.relayPlace (.relay on) with
  | (.ok (), w) => (.ok (), w.map fun s => { s with relay := some on })
  | (.error e, w) => (.error e, w)

/-- Brings the relay in step with the wanted power state, unless it is known to be. -/
def keepRelay [Bus β] (powered : Bool) (w : Watched ℓ β) : Watched ℓ β :=
  if w.side.relay = some powered then w
  else
    match w.switchRelay powered with
    | (.ok (), w) =>
      w.map fun s => (s.say .info ("relay " ++ switchPayload powered)).publishRelay powered
    | (.error e, w) => w.map fun s => s.say .warn ("relay switch failed: " ++ e.message)

/-- Writes a bitmap to the panel at a place. -/
def writePanel (bitmap : Bitmap) (place : Fin 3) (w : Watched ℓ β) : Bool × Watched ℓ β :=
  match w.call place (.image bitmap) with
  | (.ok (), w) => (true, w)
  | (.error e, w) =>
    (false, w.map fun s => s.say .warn ("panel " ++ toString place.val ++ ": " ++ e.message))

/-- Writes a bitmap to all panels in order; the answer is how many accepted it. -/
def writePanels (bitmap : Bitmap) (w : Watched ℓ β) : Nat × Watched ℓ β :=
  (List.finRange 3).foldl (fun (accepted, w) place =>
    let (answer, w) := w.writePanel bitmap place
    (accepted + answer.toNat, w)) (0, w)

/-- Writes a bitmap and keeps it in mind if all panels have accepted it. -/
def push (bitmap : Bitmap) (w : Watched ℓ β) : Watched ℓ β :=
  let (accepted, w) := w.writePanels bitmap
  w.map fun s =>
    if accepted = panelCount then s.mapHub (Hub.mapSign (Sign.confirm bitmap))
    else
      s.say .debug
        ("bitmap accepted by " ++ toString accepted ++ "/" ++ toString panelCount ++ " panels")

/-- Draws the sign and writes it to the panels, unless they all show it. -/
def redraw (now : ClockReading) (w : Watched ℓ β) : Watched ℓ β :=
  let (view, side) := w.side.look now
  let (bitmap, side) := side.draw view now
  let w := w.map fun _ => side
  if side.hub.sign.lacks bitmap then w.push bitmap else w

/-- One tick. -/
def tick [Bus β] (now : ClockReading) (w : Watched ℓ β) : Nat × Watched ℓ β :=
  let powered := w.side.hub.sign.powered
  let w := (w.keepRelay powered).map (PanelSide.followPower powered)
  let w := if w.side.activity.draws then w.redraw now else w
  (w.side.activity.periodMs w.side.hub.timings, w)

end Panels

end Watched

end Marquee
