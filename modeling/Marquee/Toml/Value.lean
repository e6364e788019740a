import Marquee.Number.Binary

/-!
# TOML values

A document is a table, and a table is a list of keys with their values, in the order in which they
were written. Each table remembers how it came about, because that decides what may still be added
to it: a table that was only implied can still get its own header, one that was written with
dotted keys can get more of those, and one in braces is finished.
-/

namespace Marquee

/-- How a table came about. -/
inductive TableOrigin
  /-- a longer header runs through it -/
  | implied
  /-- its own header -/
  | header
  /-- a dotted key runs through it -/
  | dotted
  /-- braces -/
  | braces
deriving DecidableEq

/-- A value of a document. -/
inductive Toml
  /-- text -/
  | string (text : String)
  /-- a whole number -/
  | integer (value : Int)
  /-- a number with a point or an exponent -/
  | float (value : Double)
  /-- true or false -/
  | boolean (value : Bool)
  /-- a date, a time, or both -/
  | moment
  /-- values in brackets, or tables that were written with double headers -/
  | array (ofTables : Bool) (items : List Toml)
  /-- keys with their values -/
  | table (origin : TableOrigin) (entries : List (String × Toml))

namespace Toml

/-- Keys with their values, in the order of writing. -/
abbrev Entries := List (String × Toml)

/-- The value of a key. -/
def find? (key : String) (entries : Entries) : Option Toml :=
  (entries.find? fun entry => entry.1 == key).map Prod.snd

/-- The entries with another value for a key that is there. -/
def replace (key : String) (value : Toml) (entries : Entries) : Entries :=
  entries.map fun entry => if entry.1 = key then (key, value) else entry

/-! ## Building a document -/

/-- Adds a value under a dotted key. Tables that the key runs through are made, or must be able to
take more dotted keys. A key that is there cannot be written again. -/
def assign (key : String) : (more : List String) → Toml → Entries → Option Entries
  | [], value, entries =>
    match find? key entries with
    | none => some (entries ++ [(key, value)])
    | some _ => none
  | next :: more, value, entries =>
    match find? key entries with
    | none =>
      (assign next more value []).map fun inner => entries ++ [(key, table .dotted inner)]
    | some (table .dotted inner) =>
      (assign next more value inner).map fun inner => replace key (table .dotted inner) entries
    | some (table .implied inner) =>
      if more.isEmpty then none
      else
        (assign next more value inner).map fun inner => replace key (table .implied inner) entries
    | some _ => none

/-- Changes the table that a header path leads to; of tables with double headers that is the last
one. -/
def modifyAt (f : Entries → Option Entries) : (path : List String) → Entries → Option Entries
  | [], entries => f entries
  | key :: path, entries =>
    match find? key entries with
    | some (table origin inner) =>
      (modifyAt f path inner).map fun inner => replace key (table origin inner) entries
    | some (array true items) =>
      match items.getLast? with
      | some (table origin inner) =>
        (modifyAt f path inner).map fun inner =>
          replace key (array true (items.dropLast ++ [table origin inner])) entries
      | _ => none
    | _ => none

/-- Goes through the tables of a header path, making those that are missing, and applies `f` to the
entries that the last key belongs to. -/
def throughTables (f : String → Entries → Option Entries) (key : String) :
    (more : List String) → Entries → Option Entries
  | [], entries => f key entries
  | next :: more, entries =>
    match find? key entries with
    | none =>
      (throughTables f next more []).map fun inner => entries ++ [(key, table .implied inner)]
    | some (table .braces _) => none
    | some (table origin inner) =>
      (throughTables f next more inner).map fun inner => replace key (table origin inner) entries
    | some (array true items) =>
      match items.getLast? with
      | some (table origin inner) =>
        (throughTables f next more inner).map fun inner =>
          replace key (array true (items.dropLast ++ [table origin inner])) entries
      | _ => none
    | some _ => none

/-- Opens a table by its own header. -/
def openTable (key : String) (entries : Entries) : Option Entries :=
  match find? key entries with
  | none => some (entries ++ [(key, table .header [])])
  | some (table .implied inner) => some (replace key (table .header inner) entries)
  | some _ => none

/-- Opens one more table by a double header. -/
def openElement (key : String) (entries : Entries) : Option Entries :=
  match find? key entries with
  | none => some (entries ++ [(key, array true [table .header []])])
  | some (array true items) =>
    some (replace key (array true (items ++ [table .header []])) entries)
  | some _ => none

end Toml

end Marquee
