/-
RealmAccess.Rule — one authorization row.

A row says that the members of a group in a realm may perform an action,
and on what: a target realm, and within it a target group. Either target
may be missing, and either may hold one of the reserved tokens that
`RealmAccess.Matrix.Key` reads.
-/

namespace RealmAccess

/-- Members of `userGroup` in `userRealm` may perform `action` on the targets. -/
structure Rule where
  /-- Realm of the actor. -/
  userRealm : String
  /-- Group of the actor. -/
  userGroup : String
  /-- Name of the action. -/
  action : String
  /-- Realm acted on; a row without one grants nothing. -/
  targetRealm : Option String := none
  /-- Group acted on. -/
  targetGroup : Option String := none
  deriving DecidableEq, Inhabited

namespace Rule

/-- The row with another target realm. -/
def withTargetRealm (r : Rule) (realm : String) : Rule := { r with targetRealm := some realm }

/-- The row with another target group. -/
def withTargetGroup (r : Rule) (group : String) : Rule := { r with targetGroup := some group }

end Rule

end RealmAccess
