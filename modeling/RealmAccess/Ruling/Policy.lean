/-
RealmAccess.Ruling.Policy — checks decided by the authorization matrix.

An actor's groups are looked up in the actor's realm. A check on a user
asks for the user's groups and needs one of them to be reached; a check on
a group identifier asks for the group's name; a check on the actor itself
takes the context's own groups, so it asks nobody. A user without groups
and an identifier without a group are always refused.
-/
import RealmAccess.Matrix.Reach
import RealmAccess.Ruling

namespace RealmAccess

/-- What the checks are decided by. -/
structure Policy where
  matrix : Matrix
  primaryRealm : String := defaultPrimaryRealm
  deriving DecidableEq

namespace Policy

open Ruling

variable (p : Policy)

/-! ## Named groups -/

/-- Whether some groups of a realm may perform an action on a target realm. -/
def groupsOnRealm (realm : String) (groups : List String) (action targetRealm : String) : Verdict :=
  if p.matrix.permitsRealm p.primaryRealm realm groups action targetRealm then .allow
  else .deny .forbidden

/-- Whether some groups of a realm may perform an action on a target group. -/
def groupsOnGroup (realm : String) (groups : List String) (action targetRealm targetGroup : String) :
    Verdict :=
  if p.matrix.permitsGroup p.primaryRealm realm groups action targetRealm targetGroup then .allow
  else .deny .forbidden

/-! ## The actor of a context -/

/-- Check an action on a realm. -/
def onRealm (ctx : Context) (action targetRealm : String) : Ruling :=
  withRealm ctx fun realm => withGroups ctx fun groups =>
    allowIf (p.matrix.permitsRealm p.primaryRealm realm groups action targetRealm) ctx
      "Forbidden: operation not permitted on target realm"
      [("action", .text action), ("target_realm", .text targetRealm),
        ("current_realm", .text realm), ("current_groups", .names groups)]

/-- Check an action on a group of a realm. -/
def onGroup (ctx : Context) (action targetRealm targetGroup : String) : Ruling :=
  withRealm ctx fun realm => withGroups ctx fun groups =>
    allowIf (p.matrix.permitsGroup p.primaryRealm realm groups action targetRealm targetGroup) ctx
      "Forbidden: operation not permitted on target group"
      [("action", .text action), ("target_realm", .text targetRealm), ("target_group", .text targetGroup),
        ("current_realm", .text realm), ("current_groups", .names groups)]

/-- Check an action on any one of some groups of a realm. -/
def onAnyGroup (ctx : Context) (action targetRealm : String) (targetGroups : List String) : Ruling :=
  withRealm ctx fun realm => withGroups ctx fun groups =>
    allowIf
      (targetGroups.any (p.matrix.permitsGroup p.primaryRealm realm groups action targetRealm ·)) ctx
      "Forbidden: no target group permits the operation"
      [("action", .text action), ("target_realm", .text targetRealm),
        ("target_groups", .names targetGroups),
        ("current_realm", .text realm), ("current_groups", .names groups)]

/-- Check an action on the group with an identifier. -/
def onGroupId (b : Backend) (ctx : Context) (action targetRealm groupId : String) : Ruling :=
  withToken ctx fun token =>
    withAnswer (.groupName token targetRealm groupId) .identity (b.groupName token targetRealm groupId)
      fun name =>
        if name = "" then
          refuse ctx "Forbidden: target group not found"
            [("action", .text action), ("target_realm", .text targetRealm),
              ("target_group_id", .text groupId)]
        else p.onGroup ctx action targetRealm name

/-- Check an action on a user of a realm. -/
def onUser (b : Backend) (ctx : Context) (action targetRealm user : String) : Ruling :=
  withToken ctx fun token =>
    withAnswer (.groupNamesOfUser token targetRealm user) .identity
      (b.groupNamesOfUser token targetRealm user)
      (p.onAnyGroup ctx action targetRealm)

/-- Check an action of the actor on itself. -/
def onSelf (ctx : Context) (action : String) : Ruling :=
  withRealm ctx fun realm => withGroups ctx fun groups =>
    p.onAnyGroup ctx action realm groups

/-- What the actor's groups may do; nothing if the realm or the groups are missing. -/
def rights (ctx : Context) : Table String GroupRights :=
  match ctx.realm, ctx.groups with
  | some realm, some groups => p.matrix.rightsOf realm groups
  | _, _ => ∅

end Policy

end RealmAccess
