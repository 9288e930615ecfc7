/-
RealmAccess.Toml.Value — values of a TOML text.

A scalar without quotation marks is a run of characters up to the next
separator, and its spelling decides what it is. Lists and inline tables may
be spread over several lines with comments between, and may end with a
comma. They nest eighty deep at most. Every step of reading takes a
character or opens a list or a table, so twice the length of the text
bounds the number of steps.
-/
import RealmAccess.Toml.Key
import RealmAccess.Toml.Moment
import RealmAccess.Toml.Node
import RealmAccess.Toml.Number

namespace RealmAccess.Toml

/-- How deep lists and inline tables may nest. -/
def maxDepth : Nat := 80

/-- Whether a character ends a scalar without quotation marks. -/
def endsScalar (c : Char) : Bool :=
  isSpace c || c = '\n' || c = '\r' || c = ',' || c = '#' || c = ']' || c = '}' || c = '=' || c = '[' || c = '{'

/-- The scalar with a spelling. -/
def plainScalar? (cs : List Char) : Option Document :=
  if cs = "true".toList then some (.bool true)
  else if cs = "false".toList then some (.bool false)
  else
    match moment? cs with
    | some text => some (.date text)
    | none => number? cs

/-- A run of characters up to the next separator, and the rest. One space is no separator between a
date and a digit. -/
def scalarRun (cs : List Char) : List Char × List Char :=
  let (run, rest) := cs.span (!endsScalar ·)
  match date? run, rest with
  | some (_, []), ' ' :: c :: more =>
    if c.isDigit then
      let (time, rest) := (c :: more).span (!endsScalar ·)
      (run ++ ' ' :: time, rest)
    else (run, rest)
  | _, _ => (run, rest)

/-- A scalar and what follows it. -/
def scalar? (cs : List Char) : Option (Document × List Char) :=
  match cs with
  | '"' :: _ | '\'' :: _ => (anyQuotation? cs).map fun (text, rest) => (.string (String.ofList text), rest)
  | cs =>
    let (run, rest) := scalarRun cs
    (plainScalar? run).map fun d => (d, rest)

mutual

/-- A value and what follows it, given the number of steps left and how many levels may open. -/
def valueFrom? : Nat → Nat → List Char → Option (Document × List Char)
  | 0, _, _ => none
  | _ + 1, 0, '[' :: _ => none
  | _ + 1, 0, '{' :: _ => none
  | n + 1, depth + 1, '[' :: rest =>
    (skipLayout rest).bind fun rest =>
      (itemsFrom? n depth rest).map fun (items, rest) => (.list items, rest)
  | n + 1, depth + 1, '{' :: rest =>
    (skipLayout rest).bind fun rest =>
      (fieldsFrom? n depth [] rest).map fun (fields, rest) => (.table (Node.documents fields), rest)
  | _ + 1, _, cs => scalar? cs

/-- The items of a list up to its end, and what follows it. -/
def itemsFrom? : Nat → Nat → List Char → Option (List Document × List Char)
  | 0, _, _ => none
  | _ + 1, _, ']' :: rest => some ([], rest)
  | n + 1, depth, cs =>
    (valueFrom? n depth cs).bind fun (item, rest) =>
      match skipLayout rest with
      | some (',' :: rest) =>
        (skipLayout rest).bind fun rest =>
          (itemsFrom? n depth rest).map fun (items, rest) => (item :: items, rest)
      | some (']' :: rest) => some ([item], rest)
      | _ => none

/-- The fields of an inline table up to its end, added to those before, and what follows it. -/
def fieldsFrom? : Nat → Nat → Fields → List Char → Option (Fields × List Char)
  | 0, _, _, _ => none
  | _ + 1, _, fields, '}' :: rest => some (fields, rest)
  | n + 1, depth, fields, cs =>
    (keyBefore? '=' cs).bind fun (path, key, rest) =>
      (valueFrom? n depth (skipSpaces rest)).bind fun (value, rest) =>
        (fields.addValue path key value .header).bind fun fields =>
          match skipLayout rest with
          | some (',' :: rest) => (skipLayout rest).bind fun rest => fieldsFrom? n depth fields rest
          | some ('}' :: rest) => some (fields, rest)
          | _ => none

end

/-- A value and what follows it. -/
def value? (cs : List Char) : Option (Document × List Char) := valueFrom? (2 * cs.length + 2) maxDepth cs

end RealmAccess.Toml
