/-
RealmAccess.Document — a configuration document before its meaning is
known: scalars, lists and tables of named fields.

A document is written in one of two formats. They differ in what they can
hold (only JSON has a null, only TOML has dates), in how an enumeration is
spelled out as a table, and in how messages show a floating point number.
-/
import RealmAccess.Decimal.Shortest

namespace RealmAccess

/-- The format that a document was written in. -/
inductive Format where
  | json
  | toml
  deriving DecidableEq, Inhabited

/-- Floating point numbers in messages: JSON turns to an exponent beyond sixteen digits and
below five decimal places, TOML is always positional. -/
def Format.floatStyle : Format → Decimal.FloatStyle
  | .json => ⟨some ⟨-5, 16⟩⟩
  | .toml => ⟨none⟩

/-- A value of a configuration document. -/
inductive Document where
  | null
  | bool (value : Bool)
  | int (value : Int)
  | float (value : Binary64)
  | string (value : String)
  /-- A date, a time or both, as written. -/
  | date (text : String)
  | list (items : List Document)
  | table (fields : List (String × Document))
  deriving BEq, Inhabited

namespace Document

/-- The one key that a date shows when it is read as a table. -/
def dateKey : String := "$__toml_private_datetime"

/-- The fields of a value that can be read as a table. -/
def fields? : Document → Option (List (String × Document))
  | .table fields => some fields
  | .date text => some [(dateKey, .string text)]
  | _ => none

/-! ## Fields in key order -/

/-- Put a field before the first one with a larger key. -/
def insertField {α : Type} (field : String × α) : List (String × α) → List (String × α)
  | [] => [field]
  | head :: rest => if field.1 ≤ head.1 then field :: head :: rest else head :: insertField field rest

/-- The fields in ascending order of their keys; fields with one key stay in their order. -/
def sortFields {α : Type} (fields : List (String × α)) : List (String × α) :=
  fields.foldr insertField []

end Document

end RealmAccess
