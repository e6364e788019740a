import Marquee.Program.Arguments

/-!
# Groups of arguments

The arguments of the command line come in groups: a flag and the values that go with it. A value may
be any text, the name of a flag among them, and a numeral has to be one of the wanted kind. This is
the grammar of the command line, written from the groups to the arguments; `Arguments.read` goes the
other way.
-/

namespace Marquee

/-- A text that is read as a number, with that number. -/
structure Spelled {α : Type} (read? : String → Option α) where
  /-- the text -/
  text : String
  /-- the number -/
  value : α
  /-- the text is read as the number -/
  reads : read? text = some value

/-- A flag with its values. -/
inductive ArgumentGroup
  /-- where the settings are -/
  | config (path : String)
  /-- emulated panels take the place of ports -/
  | simulate
  /-- store an identity -/
  | storeId (id : Spelled Numeral.byte?)
  /-- ask for the identity -/
  | askId
  /-- show a text at the origin -/
  | text (content : String)
  /-- show a text at a place -/
  | textAt (content : String) (x y : Spelled Numeral.int32?)
  /-- move an image from its first column on -/
  | image (path : String)
  /-- move an image from a column on -/
  | imageFrom (path : String) (x : Spelled Numeral.word?)
  /-- show the usage, asked for in short -/
  | shortHelp
  /-- show the usage -/
  | help

namespace ArgumentGroup

/-- The arguments that the group is made of. -/
def words : ArgumentGroup → List String
  | .config path => ["--config", path]
  | .simulate => ["--simulate"]
  | .storeId id => ["--set-id", id.text]
  | .askId => ["--get-id"]
  | .text content => ["--text", content]
  | .textAt content x y => ["--text", content, x.text, y.text]
  | .image path => ["--image", path]
  | .imageFrom path x => ["--image", path, x.text]
  | .shortHelp => ["-h"]
  | .help => ["--help"]

/-- The file with the settings that the group names. -/
def config? : ArgumentGroup → Option String
  | .config path => some path
  | _ => none

/-- The errand of the group. -/
def errand? : ArgumentGroup → Option Errand
  | .storeId id => some (.identity (.storeId id.value))
  | .askId => some (.identity .askId)
  | .text content => some (.text content 0 0)
  | .textAt content x y => some (.text content x.value y.value)
  | .image path => some (.image path 0)
  | .imageFrom path x => some (.image path x.value)
  | _ => none

/-- The group asks for emulated panels. -/
def simulates : ArgumentGroup → Bool
  | .simulate => true
  | _ => false

/-- The group asks for the usage. -/
def helps : ArgumentGroup → Bool
  | .shortHelp | .help => true
  | _ => false

/-- The arguments that groups in a row are made of. -/
def line (groups : List ArgumentGroup) : List String := groups.flatMap words

/-- The errands of groups in a row. -/
def errands (groups : List ArgumentGroup) : List Errand := groups.filterMap errand?

end ArgumentGroup

/-- What groups in a row say: the last file that is named, whether a flag is among them, and the
errand. -/
def Arguments.ofGroups (groups : List ArgumentGroup) : Arguments where
  config := (groups.filterMap ArgumentGroup.config?).getLast?
  simulate := groups.any ArgumentGroup.simulates
  errand := (ArgumentGroup.errands groups).head?
  help := groups.any ArgumentGroup.helps

end Marquee
