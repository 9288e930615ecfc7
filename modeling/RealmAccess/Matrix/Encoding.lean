/-
RealmAccess.Matrix.Encoding — how rights are written as documents.

Rights are written as tables within tables, down to lists of target groups.
Groups and actions are written by name, and target realms and target groups by
token; to read them, every token is read as a key. Two keys of one token would
be written alike and then be read as one.
-/
import RealmAccess.Document.Decoder
import RealmAccess.Matrix

namespace RealmAccess

open Decoder

/-- What an actor may do: the rights of each of the actor's groups. -/
abbrev Rights := Table String GroupRights

/-! ## Encoding -/

/-- Write a key. -/
def Key.encode (k : Key) : Document := .string k.token

/-- Write target groups. -/
def TargetGroups.encode (groups : TargetGroups) : Document := .list (groups.keys.map Key.encode)

/-- Write the targets of an action. -/
def Grants.encode (grants : Grants) : Document :=
  .table (grants.entries.map fun (k, groups) => (k.token, groups.encode))

/-- Write the rights of a group. -/
def GroupRights.encode (rights : GroupRights) : Document :=
  .table (rights.entries.map fun (action, grants) => (action, grants.encode))

/-- Write rights. -/
def Rights.encode (rights : Rights) : Document :=
  .table (rights.entries.map fun (group, rights) => (group, rights.encode))

/-! ## Decoding -/

/-- Read a key. -/
def Key.decode : Decoder Key := fun format d => (string format d).map parse

/-- Read target groups. -/
def TargetGroups.decode : Decoder TargetGroups := fun format d =>
  (sequence Key.decode format d).map fun keys => Table.ofList (keys.map (·, ()))

/-- Read the targets of an action. -/
def Grants.decode : Decoder Grants := fun format d =>
  (map TargetGroups.decode format d).map fun t =>
    Table.ofList (t.entries.map fun (token, groups) => (Key.parse token, groups))

/-- Read the rights of a group. -/
def GroupRights.decode : Decoder GroupRights := map Grants.decode

/-- Read rights. -/
def Rights.decode : Decoder Rights := map GroupRights.decode

end RealmAccess
