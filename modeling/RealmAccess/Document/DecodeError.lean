/-
RealmAccess.Document.DecodeError — why a document is not a value of the
type it was decoded as, and the message for each cause.
-/
import RealmAccess.Document
import RealmAccess.Text.Quoted

namespace RealmAccess

/-- What stands in the document at the place of the error. -/
inductive Found where
  | null
  | bool (value : Bool)
  | int (value : Int)
  | float (value : Binary64)
  | string (value : String)
  | sequence
  | map
  deriving DecidableEq

/-- What a place of the document must hold. -/
inductive Wanted where
  | string
  | boolean
  /-- An integer from 0 to 2 ^ 64 - 1. -/
  | word
  | sequence
  | map
  /-- The fields of a record, under the name of its type. -/
  | record (name : String)
  /-- One of the values of an enumeration. -/
  | enumeration
  /-- Nothing: the value of an enumeration carries no content. -/
  | unit
  /-- A table with one entry. -/
  | singleEntry
  deriving DecidableEq

/-- How many items a list must have. -/
inductive WantedLength where
  /-- One item for each field of a record, given the name of its type. -/
  | fields (name : String) (count : Nat)
  /-- No more items than the record has fields. -/
  | fewer
  deriving DecidableEq

/-- Why a document does not decode. -/
inductive DecodeError where
  /-- A required field is missing. -/
  | missingField (name : String)
  /-- A field that the record does not have. -/
  | unknownField (name : String) (known : List String)
  /-- A name that the enumeration does not have. -/
  | unknownVariant (name : String) (known : List String)
  /-- A value of another kind. -/
  | wrongType (found : Found) (wanted : Wanted)
  /-- A value of the right kind that is not allowed. -/
  | wrongValue (found : Found) (wanted : Wanted)
  /-- A record given as a list of another length. -/
  | wrongLength (length : Nat) (wanted : WantedLength)
  /-- A value that cannot stand for an enumeration at all. -/
  | notAnEnumeration
  deriving DecidableEq

/-- What a document shows of itself in a message. -/
def Document.found : Document → Found
  | .null => .null
  | .bool b => .bool b
  | .int i => .int i
  | .float x => .float x
  | .string s => .string s
  | .date _ => .map
  | .list _ => .sequence
  | .table _ => .map

/-! ## Messages -/

/-- An integer; one that fits no 64 bit word is named with a wider type. -/
def Found.integerText (i : Int) : String :=
  if -Int.pow 2 63 ≤ i ∧ i < Int.pow 2 64 then "integer `" ++ toString i ++ "`"
  else "integer `" ++ toString i ++ "` as " ++ (if i < Int.pow 2 127 then "i128" else "u128")

/-- The description of what was found. -/
def Found.text (format : Format) : Found → String
  | .null => "null"
  | .bool b => "boolean `" ++ (if b then "true" else "false") ++ "`"
  | .int i => integerText i
  | .float x => "floating point `" ++ Decimal.render format.floatStyle x ++ "`"
  | .string s => "string " ++ Text.quote s
  | .sequence => "sequence"
  | .map => "map"

/-- The description of what was wanted. -/
def Wanted.text : Wanted → String
  | .string => "a string"
  | .boolean => "a boolean"
  | .word => "u64"
  | .sequence => "a sequence"
  | .map => "a map"
  | .record name => "struct " ++ name
  | .enumeration => "string or map"
  | .unit => "unit"
  | .singleEntry => "map with a single key"

/-- The description of a wanted length. -/
def WantedLength.text : WantedLength → String
  | .fields name count =>
    "struct " ++ name ++ " with " ++ toString count ++ (if count = 1 then " element" else " elements")
  | .fewer => "fewer elements in array"

/-- A name between grave accents. -/
def tick (name : String) : String := "`" ++ name ++ "`"

/-- The known names: one alone, two joined by "or", more as a list. -/
def oneOf : List String → String
  | [a] => "expected " ++ tick a
  | [a, b] => "expected " ++ tick a ++ " or " ++ tick b
  | names => "expected one of " ++ String.intercalate ", " (names.map tick)

namespace DecodeError

/-- The message of a decoding error. -/
def message (format : Format) : DecodeError → String
  | .missingField name => "missing field " ++ tick name
  | .unknownField name known => "unknown field " ++ tick name ++ ", " ++ oneOf known
  | .unknownVariant name known => "unknown variant " ++ tick name ++ ", " ++ oneOf known
  | .wrongType found wanted => "invalid type: " ++ found.text format ++ ", expected " ++ wanted.text
  | .wrongValue found wanted => "invalid value: " ++ found.text format ++ ", expected " ++ wanted.text
  | .wrongLength length wanted => "invalid length " ++ toString length ++ ", expected " ++ wanted.text
  | .notAnEnumeration => "wanted string or table"

end DecodeError

end RealmAccess
