import Marquee.Number.Decimal
import Marquee.Service.Jobs
import Marquee.Text.Quoted

/-!
# Arguments

The arguments of the command line: where the settings are, whether panels are emulated, and at
most one errand. A flag that wants a value takes the next argument as it is; the numbers after a
text or an image are taken only if they are numbers.
-/

namespace Marquee

/-- What to do instead of serving the panels. -/
inductive Errand
  /-- see to the identity of the first panel -/
  | identity (wanted : IdJob)
  /-- show a text on all panels -/
  | text (text : String) (x y : Int)
  /-- move an image through all panels -/
  | image (path : String) (x : Nat)
deriving DecidableEq

/-- The arguments. -/
structure Arguments where
  /-- the file with the settings -/
  config : Option String
  /-- emulated panels take the place of ports -/
  simulate : Bool
  /-- what to do instead of serving the panels -/
  errand : Option Errand
  /-- show the usage -/
  help : Bool
deriving DecidableEq

/-- What can be wrong with arguments. -/
inductive UsageError
  /-- a flag has no value after it -/
  | missingValue (flag : String)
  /-- a value is no number of the wanted kind -/
  | outOfRange (flag value : String)
  /-- there is more than one errand -/
  | exclusive
  /-- no flag has this name -/
  | unknown (argument : String)
  /-- a port is needed and none is set -/
  | noPort
deriving DecidableEq

/-- The wording of a usage error. -/
def UsageError.message : UsageError → String
  | .missingValue flag => flag ++ " requires a value"
  | .outOfRange flag value => flag ++ ": " ++ Text.quoted value ++ " is out of range"
  | .exclusive => "--set-id, --get-id, --text and --image are mutually exclusive"
  | .unknown argument => "unknown argument " ++ Text.quoted argument
  | .noPort => "no panel port configured"

namespace Arguments

/-- No argument at all. -/
def none : Arguments := ⟨.none, false, .none, false⟩

/-- Sets the errand, if there is none yet. -/
def withErrand (errand : Errand) (a : Arguments) : Except UsageError Arguments :=
  match a.errand with
  | .none => .ok { a with errand := some errand }
  | some _ => .error .exclusive

/-- The number that a flag wants. -/
def numeral {α : Type} (flag : String) (read? : String → Option α) (value : String) :
    Except UsageError α :=
  match read? value with
  | some n => .ok n
  | .none => .error (.outOfRange flag value)

/-- Reads arguments on top of those read before. -/
def readOnto : List String → Arguments → Except UsageError Arguments
  | [], a => .ok a
  | flag :: rest, a =>
    if flag = "--config" then
      match rest with
      | [] => .error (.missingValue "--config")
      | path :: rest => readOnto rest { a with config := some path }
    else if flag = "--simulate" then readOnto rest { a with simulate := true }
    else if flag = "--set-id" then
      match rest with
      | [] => .error (.missingValue "--set-id")
      | value :: rest => do
        let id ← numeral flag Numeral.byte? value
        readOnto rest (← a.withErrand (.identity (.storeId id)))
    else if flag = "--get-id" then do readOnto rest (← a.withErrand (.identity .askId))
    else if flag = "--text" then
      match rest with
      | [] => .error (.missingValue "--text")
      | [text] => a.withErrand (.text text 0 0)
      | text :: first :: rest =>
        match Numeral.int32? first with
        | .none => do readOnto (first :: rest) (← a.withErrand (.text text 0 0))
        | some x =>
          match rest with
          | [] => .error (.missingValue "--text X")
          | second :: rest => do
            let y ← numeral flag Numeral.int32? second
            readOnto rest (← a.withErrand (.text text x y))
    else if flag = "--image" then
      match rest with
      | [] => .error (.missingValue "--image")
      | [path] => a.withErrand (.image path 0)
      | path :: first :: rest =>
        match Numeral.word? first with
        | .none => do readOnto (first :: rest) (← a.withErrand (.image path 0))
        | some x => do readOnto rest (← a.withErrand (.image path x))
    else if flag = "-h" ∨ flag = "--help" then readOnto rest { a with help := true }
    else .error (.unknown flag)

/-- Reads all arguments of the command line. -/
def read (arguments : List String) : Except UsageError Arguments := readOnto arguments none

end Arguments

end Marquee
