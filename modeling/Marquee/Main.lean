import Marquee.Program.CommandLine

/-!
# The command line

Collects what a run may ask of the world, runs the program and shows what it left behind: the
output, and the remarks from informational ones on.
-/

namespace Marquee.Console

/-- The content of a file, if it can be read. -/
def content? (path : String) : IO (Option (List UInt8)) := do
  try return some (← IO.FS.readBinFile path).toList
  catch _ => return none

/-- Looks up a name in a list of names with values. -/
def lookup {α : Type} (entries : List (String × Option α)) (name : String) : Option α :=
  (entries.find? fun entry => entry.1 == name).bind Prod.snd

/-- The world around a run, as far as the arguments can ask for it. Serial ports are out of reach,
so none of them opens. -/
def world (words : List String) : IO (World (ChannelLink ReplyQueue)) := do
  let environment ← Settings.environmentNames.mapM fun name => do return (name, ← IO.getEnv name)
  let files ← words.mapM fun path => do return (path, ← content? path)
  return ⟨lookup environment, lookup files, fun _ _ => .error .notFound⟩

end Marquee.Console

def main (words : List String) : IO UInt32 := do
  let (succeeded, transcript) := Marquee.CommandLine.run (← Marquee.Console.world words) words
  IO.print transcript.output
  for line in transcript.journal.lines .info do IO.eprintln line
  return if succeeded then 0 else 1
