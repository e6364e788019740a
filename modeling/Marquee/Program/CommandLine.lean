import Marquee.Link.Exchange
import Marquee.Link.RollCall
import Marquee.Panel.Line
import Marquee.Picture.Luma
import Marquee.Program.Arguments
import Marquee.Program.Settings

/-!
# One run of the program

`CommandLine.run` is everything that the program does from its arguments to its end, up to serving
the panels, as a function of the world around it: the environment, the files and the serial ports.
What it leaves behind is a transcript, and whether it succeeded. The steps are arguments, settings,
an image if one is asked for, panels, and then the errand; the first that fails is the last.
-/

namespace Marquee

/-- Why a serial port cannot be opened. -/
inductive PortError
  /-- there is none of this name -/
  | notFound
deriving DecidableEq

/-- The wording of a port error. -/
def PortError.message : PortError → String
  | .notFound => "No such file or directory"

/-- Why an image cannot be loaded. -/
inductive ImageError
  /-- the file could not be read -/
  | file (reason : FileError)
  /-- the file holds no image that can be read -/
  | format
deriving DecidableEq

/-- The wording of an image error. -/
def ImageError.message : ImageError → String
  | .file reason => reason.message
  | .format => "The image format could not be determined"

/-- The image in a file, from what reading the file gave. -/
def LumaImage.ofContent (path : String) (content : Option (List UInt8)) :
    Except ImageError LumaImage :=
  match content with
  | none => .error (.file .notFound)
  | some file =>
    match ofFile? path file with
    | none => .error .format
    | some image => .ok image

/-- Everything that ends a run early. -/
inductive ProgramError
  /-- the arguments are wrong -/
  | usage (error : UsageError)
  /-- the settings are wrong -/
  | settings (error : SettingsError)
  /-- the chain of panels is not complete -/
  | rollCall (error : RollCallError)
  /-- a panel failed -/
  | panel (error : LinkError)
  /-- an image could not be loaded -/
  | image (path : String) (error : ImageError)
  /-- a port could not be opened -/
  | port (name : String) (error : PortError)
  /-- the panels cannot be served without a message bus -/
  | noBus
deriving DecidableEq

/-- The wording of a program error. -/
def ProgramError.message : ProgramError → String
  | .usage e => "invalid arguments: " ++ e.message
  | .settings e => "configuration error: " ++ e.message
  | .rollCall e => e.message
  | .panel e => "panel command failed: " ++ e.message
  | .image path e => "could not load image " ++ path ++ ": " ++ e.message
  | .port name e => "could not open " ++ name ++ ": " ++ e.message
  | .noBus => "no message bus can be reached"

/-- What a run finds around it. -/
structure World (ℓ : Type) where
  /-- the variables of the environment -/
  environment : String → Option String
  /-- the files by name -/
  file : String → Option (List UInt8)
  /-- opens a serial port with a panel on it -/
  openPort : String → LineSettings → Except PortError ℓ

/-- What a run leaves behind. -/
structure Transcript where
  /-- the text on the standard output -/
  output : String
  /-- everything that was said -/
  journal : Journal
deriving DecidableEq

namespace CommandLine

/-- The usage of the program. -/
def usage : String :=
  "Usage: hexascroller [OPTIONS]\n" ++
  "\n" ++
  "Options:\n" ++
  "  --config PATH         Load configuration from PATH instead of the built-in defaults\n" ++
  "  --simulate            Use emulated panels instead of serial ports\n" ++
  "  --set-id N            Store logical id N on the first panel port and exit\n" ++
  "  --get-id              Print the logical id of the first panel port and exit\n" ++
  "  --text TEXT [X Y]     Draw TEXT with the panels' own font at (X, Y) and exit\n" ++
  "  --image PATH [X]      Step an image down through the panels from column X and exit\n" ++
  "  -h, --help            Show this help\n"

/-- A part of a run. -/
abbrev Run := Attempt Transcript ProgramError

/-- Writes a text to the standard output. -/
def print (text : String) : Run Unit := modify fun t => { t with output := t.output ++ text }

/-- Adds remarks to the transcript. -/
def remark (remarks : Journal) : Run Unit :=
  modify fun t => { t with journal := t.journal ++ remarks }

/-- The value of a result; a failure ends the run. -/
def demand {ε α : Type} (cause : ε → ProgramError) (result : Except ε α) : Run α :=
  ExceptT.mk (pure (result.mapError cause))

/-! ## Settings -/

/-- The settings of a run: from a file or those that come with the program, then the environment,
then the arguments, and then the checks. -/
def settings {ℓ : Type} (world : World ℓ) (arguments : Arguments) : Run Settings := do
  let given ← demand .settings <|
    match arguments.config with
    | some path => Settings.ofFile path (world.file path)
    | none => Settings.builtIn
  let given := given.withEnvironment world.environment
  let given := if arguments.simulate then given.withSimulate true else given
  demand .settings given.check
  return given

/-! ## The identity of one panel -/

section Panels

variable {ℓ : Type} [Link ℓ]

/-- Calls a panel; what the link says goes to the transcript. -/
def call {α : Type} (operation : Attempt ℓ LinkError α) (link : ℓ) : Run α := do
  let (answer, link) := operation link
  remark (Link.takeRemarks link).1
  demand .panel answer

/-- Tells what became of the identity of a panel. -/
def tellIdentity (wanted : IdJob) (name : String) (id : UInt8) : Run Unit :=
  match wanted with
  | .storeId _ => remark [⟨.info, name ++ ": id set to " ++ toString id.toNat⟩]
  | .askId => print (name ++ ": " ++ toString id.toNat ++ "\n")

/-- An emulated panel with an identity, behind a line of its own. -/
def emulated (id : UInt8) : ChannelLink PanelLine := ⟨.new id⟩

/-- Sees to the identity of the panel on the first port. -/
def seeToIdentity (world : World ℓ) (panels : PanelSettings) (wanted : IdJob) : Run Unit :=
  if panels.simulate then do
    let id ← call (Job.seeToIdentity wanted) (emulated 0)
    tellIdentity wanted "loopback" id
  else
    match panels.ports with
    | [] => throw (.usage .noPort)
    | port :: _ => do
      let link ← demand (.port port) (world.openPort port panels.line)
      let id ← call (Job.seeToIdentity wanted) link
      tellIdentity wanted port id

/-! ## Work on the whole chain -/

/-- Work on the chain of panels. -/
inductive ChainJob
  /-- serve the panels until the end is asked for -/
  | serve
  /-- show a text -/
  | text (text : String) (x y : Int)
  /-- move an image through the panels -/
  | image (image : LumaImage) (x : Nat)

/-- What is said about a candidate that was asked for its identity. -/
def reportRemark (name : String) : Except OpeningError UInt8 → Remark
  | .ok id =>
    if id.toNat < panelCount then ⟨.info, name ++ ": panel " ++ toString id.toNat⟩
    else ⟨.warn, name ++ ": id " ++ toString id.toNat ++ " out of range, ignored"⟩
  | .error e => ⟨.warn, name ++ ": skipped, " ++ e.message⟩

/-- Finds the panels among candidates that open or do not, and says something about each. -/
def find {κ : Type} (name : κ → String) (openLink : κ → Except PortError ℓ)
    (candidates : List κ) : Run (Trio ℓ) := do
  let (reports, result) :=
    rollCall (fun candidate => (openLink candidate).mapError fun _ => .unavailable) candidates
  remark <| reports.flatMap fun report =>
    let opening : Journal :=
      match openLink report.candidate with
      | .ok _ => []
      | .error e => [⟨.debug, name report.candidate ++ ": " ++ e.message⟩]
    opening ++ [reportRemark (name report.candidate) report.outcome]
  demand .rollCall result

/-- Runs a job on all panels of the chain. -/
def onCrew {α : Type} (job : Attempt (Crew ℓ) LinkError α) (panels : Trio ℓ) : Run α := do
  let (answer, crew) := job ⟨panels.toList, []⟩
  remark crew.journal
  demand .panel answer

/-- Does the work that a run was started for. -/
def perform (job : ChainJob) (panels : Trio ℓ) : Run Unit :=
  match job with
  | .serve => throw .noBus
  | .text text x y => do
    onCrew (Job.writeText text x y) panels
    remark [⟨.info, "text sent to " ++ toString panelCount ++ " panels"⟩]
  | .image image x => do
    let shown ← onCrew (Job.rollImage image x) panels
    remark [⟨.info, "image shown in " ++ toString shown ++ " steps"⟩]

/-- Finds the panels and does the work. Emulated panels come in reverse order, so that there is
something to sort. -/
def onChain (world : World ℓ) (panels : PanelSettings) (job : ChainJob) : Run Unit :=
  if panels.simulate then do
    remark [⟨.info, "simulating " ++ toString panelCount ++ " panels"⟩]
    let chain ← find (fun id : UInt8 => toString id.toNat) (fun id => .ok (emulated id)) [2, 1, 0]
    perform job chain
  else do
    let chain ← find id (fun port => world.openPort port panels.line) panels.ports
    perform job chain

/-! ## The whole run -/

/-- Does what the errand says, or serves the panels. An image is loaded before any panel is looked
for. -/
def carryOut (world : World ℓ) (panels : PanelSettings) : Option Errand → Run Unit
  | none => onChain world panels .serve
  | some (.identity wanted) => seeToIdentity world panels wanted
  | some (.text text x y) => onChain world panels (.text text x y)
  | some (.image path x) => do
    let image ← demand (.image path) (LumaImage.ofContent path (world.file path))
    onChain world panels (.image image x)

/-- The run without its closing words. -/
def body (world : World ℓ) (words : List String) : Run Unit := do
  let arguments ← demand .usage (Arguments.read words)
  if arguments.help then print usage
  else
    let settings ← settings world arguments
    carryOut world settings.panels arguments.errand

/-- A whole run: whether it succeeded and what it left behind. A failure is the last thing said. -/
def run (world : World ℓ) (words : List String) : Bool × Transcript :=
  match body world words ⟨"", []⟩ with
  | (.ok (), t) => (true, t)
  | (.error e, t) => (false, { t with journal := t.journal ++ [⟨.error, e.message⟩] })

end Panels

end CommandLine

end Marquee
