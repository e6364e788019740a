import Marquee.Toml.Scalar

/-!
# TOML documents

The grammar of a document: lines with a key and its value, with a header, or with nothing but a
comment. `Toml.parse?` answers with the keys of the document, or with nothing if the text breaks a
rule anywhere; what rule that was is not told.
-/

namespace Marquee.Toml

/-! ## Blanks and comments -/

/-- The rest after a comment, which ends before the line end. -/
def skipComment? : List Char → Option (List Char)
  | '#' :: rest =>
    match rest.dropWhile isPlain with
    | [] => some []
    | tail => (lineEnd? tail).map fun _ => tail
  | cs => some cs

/-- The rest after blanks, comments and line ends, as they may stand between brackets. -/
def skipLines? : (fuel : Nat) → List Char → Option (List Char)
  | 0, _ => none
  | fuel + 1, cs =>
    match skipComment? (skipSpace cs) with
    | none => none
    | some rest =>
      match lineEnd? rest with
      | some rest => skipLines? fuel rest
      | none => some rest

/-! ## Keys -/

/-- A character of a key without quotes. -/
def isBare (c : Char) : Bool := c.isAlphanum || c == '_' || c == '-'

/-- One part of a key. -/
def keyPart? (cs : List Char) : Option (String × List Char) :=
  match cs with
  | '"' :: _ | '\'' :: _ => text? false cs
  | _ =>
    match cs.takeWhile isBare with
    | [] => none
    | part => some (String.ofList part, cs.dropWhile isBare)

/-- A key: parts with points between them. -/
def key? : (fuel : Nat) → List Char → Option ((String × List String) × List Char)
  | 0, _ => none
  | fuel + 1, cs =>
    match keyPart? (skipSpace cs) with
    | none => none
    | some (part, rest) =>
      match skipSpace rest with
      | '.' :: rest => (key? fuel rest).map fun ((next, more), rest) => ((part, next :: more), rest)
      | rest => some ((part, []), rest)

/-! ## Values -/

mutual

/-- A value. -/
def value? : (fuel : Nat) → List Char → Option (Toml × List Char)
  | 0, _ => none
  | fuel + 1, cs =>
    match cs with
    | '"' :: _ | '\'' :: _ => (text? true cs).map fun (t, rest) => (string t, rest)
    | '[' :: rest => (items? fuel rest).map fun (items, rest) => (array false items, rest)
    | '\x7b' :: rest =>
      match skipSpace rest with
      | '\x7d' :: rest => some (table .braces [], rest)
      | rest => (pairs? fuel [] rest).map fun (entries, rest) => (table .braces entries, rest)
    | _ => word? cs

/-- The values of an array, after the opening bracket or a comma. -/
def items? : (fuel : Nat) → List Char → Option (List Toml × List Char)
  | 0, _ => none
  | fuel + 1, cs =>
    match skipLines? (fuel + 1) cs with
    | none => none
    | some (']' :: rest) => some ([], rest)
    | some rest =>
      match value? fuel rest with
      | none => none
      | some (item, rest) =>
        match skipLines? (fuel + 1) rest with
        | some (']' :: rest) => some ([item], rest)
        | some (',' :: rest) => (items? fuel rest).map fun (items, rest) => (item :: items, rest)
        | _ => none

/-- The keys and values of a table in braces, after the opening brace or a comma. -/
def pairs? : (fuel : Nat) → Entries → List Char → Option (Entries × List Char)
  | 0, _, _ => none
  | fuel + 1, entries, cs =>
    match keyValue? fuel cs with
    | none => none
    | some (((key, more), value), rest) =>
      match assign key more value entries with
      | none => none
      | some entries =>
        match skipSpace rest with
        | '\x7d' :: rest => some (entries, rest)
        | ',' :: rest => pairs? fuel entries rest
        | _ => none

/-- A key and its value. -/
def keyValue? : (fuel : Nat) → List Char → Option (((String × List String) × Toml) × List Char)
  | 0, _ => none
  | fuel + 1, cs =>
    match key? (cs.length + 1) cs with
    | some (key, '=' :: rest) =>
      (value? fuel (skipSpace rest)).map fun (value, rest) => ((key, value), rest)
    | _ => none

end

/-! ## Lines -/

/-- A document in the making. -/
structure Draft where
  /-- all entries so far -/
  entries : Entries
  /-- the path of the header that is in force -/
  path : List String

/-- One line, up to its end, without the comment. -/
def line? (fuel : Nat) (draft : Draft) (cs : List Char) : Option (Draft × List Char) :=
  match cs with
  | [] | '#' :: _ | '\n' :: _ | '\r' :: _ => some (draft, cs)
  | '[' :: '[' :: rest =>
    match key? fuel rest with
    | some ((key, more), ']' :: ']' :: rest) =>
      (throughTables openElement key more draft.entries).map fun entries =>
        (⟨entries, key :: more⟩, rest)
    | _ => none
  | '[' :: rest =>
    match key? fuel rest with
    | some ((key, more), ']' :: rest) =>
      (throughTables openTable key more draft.entries).map fun entries =>
        (⟨entries, key :: more⟩, rest)
    | _ => none
  | _ =>
    match keyValue? fuel cs with
    | some (((key, more), value), rest) =>
      (modifyAt (assign key more value) draft.path draft.entries).map fun entries =>
        ({ draft with entries := entries }, rest)
    | none => none

/-- All lines. -/
def lines? : (fuel : Nat) → Draft → List Char → Option Draft
  | 0, _, _ => none
  | fuel + 1, draft, cs =>
    match line? fuel draft (skipSpace cs) with
    | none => none
    | some (draft, rest) =>
      match skipComment? (skipSpace rest) with
      | none => none
      | some [] => some draft
      | some rest =>
        match lineEnd? rest with
        | some rest => lines? fuel draft rest
        | none => none

/-- The text without a byte order mark in front. -/
def dropOrderMark : List Char → List Char
  | '\uFEFF' :: rest => rest
  | cs => cs

/-- The keys of a document. Every step of the reader takes at least one character, so twice the
length of the text is fuel enough. -/
def parse? (text : String) : Option Entries :=
  let cs := dropOrderMark text.toList
  (lines? (2 * cs.length + 4) ⟨[], []⟩ cs).map Draft.entries

end Marquee.Toml
