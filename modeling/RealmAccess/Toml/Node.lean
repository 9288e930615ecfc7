/-
RealmAccess.Toml.Node — tables of a TOML text while it is being read.

A table is opened by its own header, comes about because a longer header
passes through it, or is opened by a path of names before a value. Which
of these it was decides who may add to it later: a header may open a table
that other headers passed through, a path may only extend tables that
paths opened, and an inline table or a list of values is closed for good.
-/
import RealmAccess.Document

namespace RealmAccess.Toml

/-- How a table came about. -/
inductive Origin where
  /-- Its own header opened it. -/
  | header
  /-- A longer header passed through it. -/
  | passed
  /-- A path before a value opened it. -/
  | path
  deriving DecidableEq

/-- A value of a table that is being read. -/
inductive Node where
  /-- A value that cannot be added to. -/
  | closed (value : Document)
  | table (origin : Origin) (fields : List (String × Node))
  /-- Tables under one repeated header. -/
  | tables (items : List (List (String × Node)))
  deriving Inhabited

/-- The fields of a table that is being read. -/
abbrev Fields := List (String × Node)

namespace Node

/-! ## Documents -/

mutual

/-- The value that has been read. -/
def document : Node → Document
  | closed value => value
  | table _ fields => .table (documents fields)
  | tables items => .list (tableDocuments items)

/-- The fields that have been read. -/
def documents : List (String × Node) → List (String × Document)
  | [] => []
  | (name, node) :: rest => (name, node.document) :: documents rest

/-- The tables that have been read. -/
def tableDocuments : List (List (String × Node)) → List Document
  | [] => []
  | fields :: rest => .table (documents fields) :: tableDocuments rest

end

end Node

namespace Fields

/-- The fields with the value of a name replaced. -/
def replace (name : String) (node : Node) : Fields → Fields
  | [] => []
  | field :: rest => if field.1 = name then (name, node) :: rest else field :: replace name node rest

/-- Change the table that a path leads to. On the way missing tables come about; `byPath` says
whether the path stands before a value or in a header. -/
def alter (byPath : Bool) (change : Origin → Fields → Option Fields) :
    List String → Origin → Fields → Option Fields
  | [], origin, fields => change origin fields
  | name :: path, _, fields =>
    match fields.lookup name with
    | none =>
      let origin := if byPath then Origin.path else Origin.passed
      (alter byPath change path origin []).map fun sub => fields ++ [(name, .table origin sub)]
    | some (.closed _) => none
    | some (.table origin sub) =>
      if byPath && origin = .header then none
      else (alter byPath change path origin sub).map fun sub => replace name (.table origin sub) fields
    | some (.tables items) =>
      match items.getLast? with
      | none => none
      | some last =>
        (alter byPath change path .header last).map fun last =>
          replace name (.tables (items.dropLast ++ [last])) fields

/-- Add a field to a table that is open for it. -/
def addField (byPath : Bool) (key : String) (value : Document) (origin : Origin) (fields : Fields) :
    Option Fields :=
  if decide (origin = .path) != byPath || (fields.lookup key).isSome then none
  else some (fields ++ [(key, .closed value)])

/-- Add a value under a path and a key. -/
def addValue (path : List String) (key : String) (value : Document) : Origin → Fields → Option Fields :=
  let byPath := !path.isEmpty
  alter byPath (addField byPath key value) path

/-- Open a table. -/
def openTable (key : String) (fields : Fields) : Option Fields :=
  match fields.lookup key with
  | none => some (fields ++ [(key, .table .header [])])
  | some (.table .passed sub) => some (replace key (.table .header sub) fields)
  | some _ => none

/-- Open a further table under a repeated header. -/
def openRepeated (key : String) (fields : Fields) : Option Fields :=
  match fields.lookup key with
  | none => some (fields ++ [(key, .tables [[]])])
  | some (.tables items) => some (replace key (.tables (items ++ [[]])) fields)
  | some _ => none

end Fields

end RealmAccess.Toml
