/-
RealmAccess.Toml — TOML texts read as documents.

A text is a sequence of lines: empty ones, headers that open a table or a
further table under a repeated header, and values under a path of names.
Reading fails if any line is malformed or adds to a table that is closed
for it; why does not matter to the caller.
-/
import RealmAccess.Toml.Value

namespace RealmAccess.Toml

/-- One line of a text. -/
inductive Line where
  | empty
  /-- A header, with the path to the table that it opens. -/
  | header (path : List String) (key : String)
  /-- A repeated header, with the path to the table that it opens. -/
  | repeatedHeader (path : List String) (key : String)
  /-- A value under a path and a key of the table opened last. -/
  | field (path : List String) (key : String) (value : Document)

/-- The line at the front of a text, which may reach over several if its value does, and what
follows before the end of the last. -/
def line? (cs : List Char) : Option (Line × List Char) :=
  match skipSpaces cs with
  | [] => some (.empty, [])
  | '[' :: '[' :: rest =>
    match keyBefore? ']' (skipSpaces rest) with
    | some (path, key, ']' :: rest) => some (.repeatedHeader path key, rest)
    | _ => none
  | '[' :: rest => (keyBefore? ']' (skipSpaces rest)).map fun (path, key, rest) => (.header path key, rest)
  | c :: rest =>
    if c = '#' || (lineEnd? (c :: rest)).isSome then some (.empty, c :: rest)
    else
      (keyBefore? '=' (c :: rest)).bind fun (path, key, rest) =>
        (value? (skipSpaces rest)).map fun (value, rest) => (.field path key value, rest)

/-- The lines of a text, of which there are at most the given number. -/
def linesFrom? : Nat → List Char → Option (List Line)
  | 0, _ => none
  | _ + 1, [] => some []
  | n + 1, cs =>
    (line? cs).bind fun (line, rest) =>
      (finishLine rest).bind fun rest => (linesFrom? n rest).map (line :: ·)

/-- The text without a byte order mark at its front. -/
def dropMark : List Char → List Char
  | '\ufeff' :: rest => rest
  | cs => cs

/-- The lines of a text. -/
def lines? (text : String) : Option (List Line) :=
  let cs := dropMark text.toList
  linesFrom? (cs.length + 1) cs

/-- Add lines to a table, given the path to the table that was opened last. -/
def addLines (opened : List String) (fields : Fields) : List Line → Option Fields
  | [] => some fields
  | .empty :: rest => addLines opened fields rest
  | .header path key :: rest =>
    (Fields.alter false (fun _ => Fields.openTable key) path .header fields).bind fun fields =>
      addLines (path ++ [key]) fields rest
  | .repeatedHeader path key :: rest =>
    (Fields.alter false (fun _ => Fields.openRepeated key) path .header fields).bind fun fields =>
      addLines (path ++ [key]) fields rest
  | .field path key value :: rest =>
    (Fields.alter false (Fields.addValue path key value) opened .header fields).bind fun fields =>
      addLines opened fields rest

/-- The document that a text stands for. -/
def read? (text : String) : Option Document :=
  ((lines? text).bind (addLines [] [])).map fun fields => .table (Node.documents fields)

end RealmAccess.Toml
