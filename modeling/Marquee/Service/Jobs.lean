import Marquee.Link.Basic
import Marquee.Picture.Window

/-!
# Jobs on panels

Work that is done once and then over: reading or storing an identity, showing a text in the
panels' own font, and moving an image down through the panels. A job works on any number of panels
in order and ends with the first failure.
-/

namespace Marquee

/-- Panels that a job works on, with what was said on the way. -/
structure Crew (ℓ : Type) where
  /-- the panels in order -/
  panels : List ℓ
  /-- everything that was said -/
  journal : Journal

namespace Crew

variable {ℓ : Type}

/-- Makes a remark. -/
def say (level : Level) (text : String) (crew : Crew ℓ) : Crew ℓ :=
  { crew with journal := crew.journal ++ [⟨level, text⟩] }

end Crew

/-- What is to be done about the identity of a panel. -/
inductive IdJob
  /-- store this one -/
  | storeId (id : UInt8)
  /-- ask for it -/
  | askId
deriving DecidableEq

namespace Job

variable {ℓ : Type} [Link ℓ]

/-- Stores or asks for the identity of a panel. The answer is the identity that it has now. -/
def seeToIdentity (wanted : IdJob) : Attempt ℓ LinkError UInt8 :=
  match wanted with
  | .storeId id => do
    Link.storeId id
    return id
  | .askId => Link.askIdentity

/-- Runs an operation on each panel in order up to the first failure. After each success `said` is
remarked, which depends on the panel's place. -/
def onEach (operation : Attempt ℓ LinkError Unit) (said : Nat → Journal) (place : Nat) :
    List ℓ → Except LinkError Unit × Crew ℓ
  | [] => (.ok (), ⟨[], []⟩)
  | link :: rest =>
    let (answer, link) := operation link
    let (remarks, link) := Link.takeRemarks link
    match answer with
    | .error e => (.error e, ⟨link :: rest, remarks⟩)
    | .ok () =>
      let (result, crew) := onEach operation said (place + 1) rest
      (result, ⟨link :: crew.panels, remarks ++ said place ++ crew.journal⟩)

/-- Runs an operation on each panel of a crew. -/
def each (operation : Attempt ℓ LinkError Unit) (said : Nat → Journal) :
    Attempt (Crew ℓ) LinkError Unit := fun crew =>
  let (result, after) := onEach operation said 0 crew.panels
  (result, { after with journal := crew.journal ++ after.journal })

/-- Shows a text on all panels in their own font. A text that the panels cannot hold is cut. -/
def writeText (text : String) (x y : Int) : Attempt (Crew ℓ) LinkError Unit := fun crew =>
  let fitted := Text.fit maxPanelText text
  let cut := Text.byteCount fitted
  let whole := Text.byteCount text
  let crew :=
    if cut < whole then
      crew.say .warn ("text cut to " ++ toString cut ++ " of " ++ toString whole ++ " bytes")
    else crew
  each (Link.showText fitted x y)
    (fun place => [⟨.debug, "panel " ++ toString place ++ ": text sent"⟩]) crew

section Image

variable {γ : Type} [Picture γ]

/-- The last row that a window starts with. -/
def lastRow (image : γ) : Nat := Picture.height image - panelHeight

/-- Shows windows of an image one below the other: `count` of them, from row `row` on. -/
def showRows (image : γ) (x row : Nat) : (count : Nat) → Attempt (Crew ℓ) LinkError Unit
  | 0 => pure ()
  | count + 1 => fun crew =>
    match each (Link.showBitmap (windowAt image x row).toList) (fun _ => []) crew with
    | (.error e, crew) => (.error e, crew)
    | (.ok (), crew) =>
      showRows image x (row + 1) count
        (crew.say .trace ("image row " ++ toString row ++ "/" ++ toString (lastRow image)))

/-- Moves an image down through the panels, starting at a column. Every window from the top row to
the bottom one is shown on all panels, and an image that is no taller than a panel once. The
answer is the number of windows. -/
def rollImage (image : γ) (x : Nat) : Attempt (Crew ℓ) LinkError Nat := do
  showRows image x 0 (lastRow image + 1)
  return lastRow image + 1

end Image

end Job

end Marquee
