import Marquee.Link.Calls

/-!
# Rounds

A job on several panels makes its calls in rounds: each call goes to all panels in order before the
next one goes to any. A round is a list of visits, one call on one panel each, and what comes of
visits is told by a tour: which of them were made, how the last one ended, and the panels
afterwards. A visit that fails ends the tour.
-/

namespace Marquee

variable {ℓ : Type} [Link ℓ]

/-! ## One panel -/

namespace Call

/-- Makes a call and takes what the link has to say of it. -/
def visit (call : Call) : Attempt ℓ LinkError Unit := fun link =>
  let (answer, link) := call.perform link
  (answer, (Link.takeRemarks link).2)

/-- Makes calls one after another up to the first that fails. -/
def visitAll : List Call → Attempt ℓ LinkError Unit
  | [] => pure ()
  | call :: rest => do
    call.visit
    visitAll rest

/-- The calls succeed one after another, and this is how they leave the link. -/
def Accepted (calls : List Call) (link link' : ℓ) : Prop := visitAll calls link = (.ok (), link')

end Call

/-! ## Several panels -/

/-- A call on the panel at a place. -/
structure Visit where
  /-- the place -/
  place : Nat
  /-- the call -/
  call : Call

/-- A call on each of `n` panels in order. -/
def round (n : Nat) (call : Call) : List Visit := (List.range n).map fun place => ⟨place, call⟩

/-- A round for each call. -/
def rounds (n : Nat) (calls : List Call) : List Visit := calls.flatMap (round n)

/-- The calls at a place. -/
def Visit.callsAt (place : Nat) (visits : List Visit) : List Call :=
  (visits.filter fun visit => visit.place = place).map Visit.call

/-- What visits come to. -/
structure Tour (ℓ : Type) where
  /-- the visits that were made, oldest first -/
  made : List Visit
  /-- the first failure -/
  result : Except LinkError Unit
  /-- the panels afterwards -/
  panels : List ℓ

/-- Makes visits one after another up to the first that fails. There is nobody to visit at a place
without a panel. -/
def tour (panels : List ℓ) : List Visit → Tour ℓ
  | [] => ⟨[], .ok (), panels⟩
  | visit :: rest =>
    match panels[visit.place]? with
    | none => tour panels rest
    | some link =>
      match visit.call.visit link with
      | (.error e, link) => ⟨[visit], .error e, panels.set visit.place link⟩
      | (.ok (), link) =>
        let later := tour (panels.set visit.place link) rest
        { later with made := visit :: later.made }

end Marquee
