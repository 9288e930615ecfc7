/-
RealmAccess.Document.Record — records given as tables or as lists.

A record is described by its fields: the name of each, whether it must be
given, and how its value is read into the record. A table is read in key
order and the first fault is reported; only when every field that is there
has been read is the first missing one reported, in the order of the
description. A list gives the fields in that order too; fields that need
not be given may be left out at its end.
-/
import RealmAccess.Document.Decoder

namespace RealmAccess

/-- One field of a record. -/
structure Field (σ : Type) where
  name : String
  /-- Whether the record cannot be without it. -/
  required : Bool
  /-- Read the value of the field into the record. -/
  read : Format → Document → σ → Except DecodeError σ

/-- The description of a record type. -/
structure Record (σ : Type) where
  /-- The name that messages give the type. -/
  name : String
  /-- The record with no field given. -/
  blank : σ
  /-- The fields, in order. -/
  fields : List (Field σ)
  /-- Whether a field that the record does not have is skipped. -/
  lenient : Bool := false

namespace Field

/-- A field that must be given. -/
def needed {σ α : Type} (name : String) (item : Decoder α) (set : σ → α → σ) : Field σ where
  name := name
  required := true
  read format d record := (item format d).map (set record)

/-- A field that may be left out. -/
def spared {σ α : Type} (name : String) (item : Decoder α) (set : σ → α → σ) : Field σ where
  name := name
  required := false
  read format d record := (item format d).map (set record)

end Field

namespace Record

variable {σ : Type}

/-- The names of the fields. -/
def names (r : Record σ) : List String := r.fields.map (·.name)

/-- The field of that name. -/
def field? (r : Record σ) (name : String) : Option (Field σ) := r.fields.find? (·.name = name)

/-- Read named values into a record, from the front. -/
def readNamed (r : Record σ) (format : Format) : List (String × Document) → σ → Except DecodeError σ
  | [], record => .ok record
  | (name, d) :: rest, record =>
    match r.field? name with
    | some field =>
      match field.read format d record with
      | .error e => .error e
      | .ok record => readNamed r format rest record
    | none =>
      if r.lenient then readNamed r format rest record
      else .error (.unknownField name r.names)

/-- The first field that is required and not among the given names. -/
def missing? (r : Record σ) (given : List String) : Option String :=
  (r.fields.find? fun field => field.required && !given.contains field.name).map (·.name)

/-- Read a table. -/
def decodeTable (r : Record σ) (format : Format) (fields : List (String × Document)) :
    Except DecodeError σ :=
  match r.readNamed format (Document.sortFields fields) r.blank with
  | .error e => .error e
  | .ok record =>
    match r.missing? (fields.map (·.1)) with
    | some name => .error (.missingField name)
    | none => .ok record

/-- Read items into the fields in order; `index` is the position of the next field. -/
def readItems (r : Record σ) (format : Format) :
    List (Field σ) → List Document → Nat → σ → Except DecodeError σ
  | [], [], _, record => .ok record
  | [], extra, index, record =>
    match format with
    | .json => .error (.wrongLength (index + extra.length) .fewer)
    | .toml => .ok record
  | field :: fields, [], index, record =>
    if field.required then .error (.wrongLength index (.fields r.name r.fields.length))
    else readItems r format fields [] (index + 1) record
  | field :: fields, d :: items, index, record =>
    match field.read format d record with
    | .error e => .error e
    | .ok record => readItems r format fields items (index + 1) record

/-- Read a record. -/
def decode (r : Record σ) : Decoder σ := fun format d =>
  match d with
  | .list items => r.readItems format r.fields items 0 r.blank
  | d =>
    match d.fields? with
    | some fields => r.decodeTable format fields
    | none => .error (.wrongType d.found (.record r.name))

end Record

end RealmAccess
