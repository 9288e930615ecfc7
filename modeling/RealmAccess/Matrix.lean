/-
RealmAccess.Matrix — the authorization matrix built from a full set of rows.

The matrix is keyed by user realm, user group, action and target realm, and
holds at the leaf the set of target groups granted there. Levels are made
on first sight, so a row without a target still shows up in a listing of
rights although it grants nothing, and a row with a target realm but no
target group makes the realm level only.
-/
import RealmAccess.Table
import RealmAccess.Rule
import RealmAccess.Matrix.Key

namespace RealmAccess

/-- The target groups granted for one target realm. -/
abbrev TargetGroups := Table Key Unit

/-- What one action may be performed on: target realms with their target groups. -/
abbrev Grants := Table Key TargetGroups

/-- What the members of one group may do: actions with their grants. -/
abbrev GroupRights := Table String Grants

/-- The rights of every group of every realm. -/
structure Matrix where
  /-- User realm, then user group. -/
  realms : Table String (Table String GroupRights) := ∅
  /-- The number of rows the matrix was built from. -/
  ruleCount : Nat := 0
  deriving DecidableEq

namespace Matrix

/-- The matrix that grants nothing. -/
def empty : Matrix := ⟨∅, 0⟩

instance : EmptyCollection Matrix := ⟨empty⟩
instance : Inhabited Matrix := ⟨empty⟩

/-- Record the targets of a row among the grants of its action. -/
def addTargets (grants : Grants) (rule : Rule) : Grants :=
  match rule.targetRealm with
  | none => grants
  | some realm => grants.upsert (Key.parse realm) fun groups =>
    match rule.targetGroup with
    | none => groups.getD ∅
    | some group => (groups.getD ∅).insert (Key.parse group) ()

/-- Record a row under its realm, group and action. -/
def addRule (realms : Table String (Table String GroupRights)) (rule : Rule) :
    Table String (Table String GroupRights) :=
  realms.upsert rule.userRealm fun groups =>
    (groups.getD ∅).upsert rule.userGroup fun rights =>
      (rights.getD ∅).upsert rule.action fun grants =>
        addTargets (grants.getD ∅) rule

/-- The matrix of a full set of rows. -/
def load (rules : List Rule) : Matrix where
  realms := rules.foldl addRule ∅
  ruleCount := rules.length

/-- Everything the members of a group of a realm may do. -/
def groupRights (m : Matrix) (realm group : String) : Option GroupRights :=
  (m.realms.find? realm).bind (·.find? group)

/-- What the members of a group of a realm may perform an action on. -/
def grants (m : Matrix) (realm group action : String) : Option Grants :=
  (m.groupRights realm group).bind (·.find? action)

/-- The number of user realms that have rights. -/
def realmCount (m : Matrix) : Nat := m.realms.size

/-- Whether no realm has rights. -/
def isEmpty (m : Matrix) : Bool := m.realms.isEmpty

end Matrix

end RealmAccess
