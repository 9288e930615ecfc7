/-
RealmAccess.Matrix.Reach — which targets a grant reaches.

A grant on `*` reaches every realm, a grant on `/` every realm but the
primary one, and any other grant the realm it names; the target itself is
read as a key too, so a target spelled like a reserved token is reached by
a grant on that token. Inside a realm the group is reached by `*` or by its
own key. Any match allows: there is no explicit refusal.
-/
import RealmAccess.Matrix

namespace RealmAccess

namespace Grants

/-- Whether the grants reach a target realm. -/
def reachRealm (grants : Grants) (primaryRealm targetRealm : String) : Bool :=
  grants.contains .wildcard
    || grants.contains (Key.parse targetRealm)
    || (targetRealm != primaryRealm && grants.contains .nonPrimary)

/-- Whether the groups granted under one realm key include a group. -/
def realmHoldsGroup (grants : Grants) (realm group : Key) : Bool :=
  match grants.find? realm with
  | none => false
  | some groups => groups.contains .wildcard || groups.contains group

/-- Whether the grants reach a target group of a target realm. -/
def reachGroup (grants : Grants) (primaryRealm targetRealm targetGroup : String) : Bool :=
  grants.realmHoldsGroup .wildcard (Key.parse targetGroup)
    || (targetRealm != primaryRealm && grants.realmHoldsGroup .nonPrimary (Key.parse targetGroup))
    || grants.realmHoldsGroup (Key.parse targetRealm) (Key.parse targetGroup)

end Grants

namespace Matrix

/-- Whether any of the groups of a realm may perform an action on a target realm. -/
def permitsRealm (m : Matrix) (primaryRealm realm : String) (groups : List String)
    (action targetRealm : String) : Bool :=
  groups.any fun group =>
    (m.grants realm group action).any (·.reachRealm primaryRealm targetRealm)

/-- Whether any of the groups of a realm may perform an action on a target group. -/
def permitsGroup (m : Matrix) (primaryRealm realm : String) (groups : List String)
    (action targetRealm targetGroup : String) : Bool :=
  groups.any fun group =>
    (m.grants realm group action).any (·.reachGroup primaryRealm targetRealm targetGroup)

/-- The rights of those of the groups that have any. -/
def rightsOf (m : Matrix) (realm : String) (groups : List String) : Table String GroupRights :=
  Table.ofList (groups.filterMap fun group => (m.groupRights realm group).map (group, ·))

end Matrix

end RealmAccess
