/-!
# Remarks

What the program says about its own work: a list of remarks, oldest first, each with a level. A
reader of the list asks for all remarks up to a level, from errors (always shown) down to traces.
-/

namespace Marquee

/-- How much a remark matters. -/
inductive Level
  | error
  | warn
  | info
  | debug
  | trace
deriving DecidableEq

namespace Level

/-- The level's place, from the gravest on. -/
def rank : Level → Nat
  | .error => 0
  | .warn => 1
  | .info => 2
  | .debug => 3
  | .trace => 4

/-- The word that stands in front of a remark. -/
def word : Level → String
  | .error => "ERROR"
  | .warn => "WARN"
  | .info => "INFO"
  | .debug => "DEBUG"
  | .trace => "TRACE"

end Level

/-- One thing said. -/
structure Remark where
  /-- how much it matters -/
  level : Level
  /-- the words -/
  text : String
deriving DecidableEq

/-- A remark as one line of a log. -/
def Remark.line (r : Remark) : String := r.level.word ++ " " ++ r.text

/-- Remarks, oldest first. -/
abbrev Journal := List Remark

/-- The lines of the remarks that matter at least as much as the level says. -/
def Journal.lines (most : Level) (journal : Journal) : List String :=
  (journal.filter fun r => r.level.rank ≤ most.rank).map Remark.line

end Marquee
