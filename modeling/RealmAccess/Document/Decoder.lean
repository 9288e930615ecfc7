/-
RealmAccess.Document.Decoder — reading scalars, lists, optional values,
enumerations and maps out of a document.

A decoder says for a document either the value it stands for or the first
cause why it stands for none. Lists are read from the front and maps in key
order, so the cause is always the same one.
-/
import RealmAccess.Document.DecodeError
import RealmAccess.Table

namespace RealmAccess

/-- Reads values of a type out of documents. -/
abbrev Decoder (α : Type) := Format → Document → Except DecodeError α

namespace Decoder

/-- A string. -/
def string : Decoder String
  | _, .string s => .ok s
  | _, d => .error (.wrongType d.found .string)

/-- A boolean. -/
def boolean : Decoder Bool
  | _, .bool b => .ok b
  | _, d => .error (.wrongType d.found .boolean)

/-- An unsigned 64 bit integer. A negative integer is of the right kind but has no such value. -/
def word : Decoder UInt64
  | _, .int i =>
    if 0 ≤ i ∧ i < Int.pow 2 64 then .ok (UInt64.ofNat i.toNat)
    else if -Int.pow 2 63 ≤ i ∧ i < 0 then .error (.wrongValue (.int i) .word)
    else .error (.wrongType (.int i) .word)
  | _, d => .error (.wrongType d.found .word)

/-- A value that may be null. -/
def nullable {α : Type} (item : Decoder α) : Decoder (Option α)
  | _, .null => .ok none
  | format, d => (item format d).map some

/-- The items of a list, each read in turn. -/
def items {α : Type} (item : Decoder α) (format : Format) : List Document → Except DecodeError (List α)
  | [] => .ok []
  | d :: rest =>
    match item format d with
    | .error e => .error e
    | .ok a => (items item format rest).map (a :: ·)

/-- A list. -/
def sequence {α : Type} (item : Decoder α) : Decoder (List α)
  | format, .list ds => items item format ds
  | _, d => .error (.wrongType d.found .sequence)

/-- The entries of a map, each value read in turn. -/
def entries {α : Type} (item : Decoder α) (format : Format) :
    List (String × Document) → Except DecodeError (List (String × α))
  | [] => .ok []
  | (k, d) :: rest =>
    match item format d with
    | .error e => .error e
    | .ok a => (entries item format rest).map ((k, a) :: ·)

/-- A map from names. -/
def map {α : Type} (item : Decoder α) : Decoder (Table String α) := fun format d =>
  match d.fields? with
  | some fields => (entries item format (Document.sortFields fields)).map Table.ofList
  | none => .error (.wrongType d.found .map)

/-! ## Enumerations -/

/-- The value of that name. -/
def variant {α : Type} (variants : List (String × α)) (name : String) : Except DecodeError α :=
  match variants.find? (·.1 = name) with
  | some v => .ok v.2
  | none => .error (.unknownVariant name (variants.map (·.1)))

/-- Whether a document may stand for the content that a value of an enumeration does not have. -/
def noContent : Format → Document → Except DecodeError Unit
  | .json, .null => .ok ()
  | .json, d => .error (.wrongType d.found .unit)
  | .toml, .list [] => .ok ()
  | .toml, .table [] => .ok ()
  | .toml, _ => .error .notAnEnumeration

/-- One of the named values: its name, or a table with its name as the one key and no content. -/
def oneOfVariants {α : Type} (variants : List (String × α)) : Decoder α
  | _, .string name => variant variants name
  | format, .table [(name, content)] =>
    match variant variants name with
    | .error e => .error e
    | .ok a => (noContent format content).map fun _ => a
  | .json, .table _ => .error (.wrongValue .map .singleEntry)
  | .json, d => .error (.wrongType d.found .enumeration)
  | .toml, _ => .error .notAnEnumeration

end Decoder

end RealmAccess
