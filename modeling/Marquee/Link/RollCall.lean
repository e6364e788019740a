import Marquee.Link.Basic
import Marquee.Trio

/-!
# Finding the panels

The order of the ports says nothing about the order of the panels, so every candidate is opened and
asked for its identity. `rollCall` answers with a report on each candidate, in order, and with the
three links in their places. The first candidate to claim a place keeps it, a second claim spoils
the result, and identities past the chain are reported and then ignored.
-/

namespace Marquee

/-- The chain has gaps or places that are claimed twice. -/
structure RollCallError where
  /-- places that no candidate claimed, ascending -/
  missing : List Nat
  /-- places with a second claim, in the order of the second claims -/
  duplicates : List Nat
deriving DecidableEq

namespace RollCallError

/-- Places as a list in brackets. -/
def listed (places : List Nat) : String :=
  "[" ++ ", ".intercalate (places.map toString) ++ "]"

/-- The wording of a roll call error. -/
def message (e : RollCallError) : String :=
  "panel discovery incomplete: missing ids " ++ listed e.missing ++ ", duplicate ids " ++
    listed e.duplicates

end RollCallError

namespace RollCall

variable {κ ℓ : Type}

/-- What is known after some of the candidates. -/
structure Found (ℓ : Type) where
  /-- the links in their places -/
  slots : Trio (Option ℓ)
  /-- places with a second claim, in the order of the second claims -/
  duplicates : List Nat

/-- Nothing is known yet. -/
def Found.none : Found ℓ := ⟨⟨.none, .none, .none⟩, []⟩

/-- A link claims the place of its identity. -/
def Found.claim (found : Found ℓ) (id : UInt8) (link : ℓ) : Found ℓ :=
  if inside : id.toNat < panelCount then
    let place : Fin 3 := ⟨id.toNat, inside⟩
    match found.slots.get place with
    | .none => { found with slots := found.slots.set place (some link) }
    | some _ =>
      if id.toNat ∈ found.duplicates then found
      else { found with duplicates := found.duplicates ++ [id.toNat] }
  else found

/-- The places without a link, ascending. -/
def Found.missing (found : Found ℓ) : List Nat :=
  [(0, found.slots.zero), (1, found.slots.one), (2, found.slots.two)].filterMap fun slot =>
    if slot.2.isNone then some slot.1 else .none

/-- The outcome once all candidates were asked. -/
def Found.result (found : Found ℓ) : Except RollCallError (Trio ℓ) :=
  match found.slots.sequence, found.duplicates with
  | some links, [] => .ok links
  | _, _ => .error ⟨found.missing, found.duplicates⟩

variable [Link ℓ]

/-- Asks an opened link for its identity. -/
def identityOf (link : ℓ) : Except OpeningError UInt8 × ℓ :=
  match Link.askIdentity link with
  | (.ok id, link) => (.ok id, link)
  | (.error (.exchange e), link) => (.error (.noResponse e), link)
  | (.error (.argument _), link) => (.error .unavailable, link)

/-- Opens one candidate and asks for its identity. -/
def ask (connect : κ → Except OpeningError ℓ) (candidate : κ) :
    Except OpeningError (UInt8 × ℓ) :=
  match connect candidate with
  | .error e => .error e
  | .ok link =>
    match identityOf link with
    | (.ok id, link) => .ok (id, link)
    | (.error e, _) => .error e

/-- What is known after one more candidate. -/
def step (connect : κ → Except OpeningError ℓ) (found : Found ℓ) (candidate : κ) : Found ℓ :=
  match ask connect candidate with
  | .ok (id, link) => found.claim id link
  | .error _ => found

end RollCall

/-- A candidate and the identity that it told, or why it was passed over. -/
structure RollCallReport (κ : Type) where
  /-- the candidate -/
  candidate : κ
  /-- its identity -/
  outcome : Except OpeningError UInt8

/-- Asks all candidates, one at a time. -/
def rollCall {κ ℓ : Type} [Link ℓ] (connect : κ → Except OpeningError ℓ) (candidates : List κ) :
    List (RollCallReport κ) × Except RollCallError (Trio ℓ) :=
  (candidates.map fun candidate => ⟨candidate, (RollCall.ask connect candidate).map Prod.fst⟩,
    (candidates.foldl (RollCall.step connect) .none).result)

end Marquee
