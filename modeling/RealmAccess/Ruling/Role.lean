/-
RealmAccess.Ruling.Role — checks decided by the actor's roles.

The admin configuration of the target realm is asked for first and the
roles only if it came. A check of the actor on itself takes the roles of
the context, and missing ones as none, in the actor's own realm.
-/
import RealmAccess.Ruling

namespace RealmAccess

namespace RoleAction

open Ruling

/-- Decide by a list of roles. -/
def decide (role : RoleAction) (ctx : Context) (targetRealm : String) (roles : List String)
    (c : AdminConfiguration) : Ruling :=
  allowIf (role.permits roles c) ctx "Forbidden: no role permits the operation"
    [("action", .text role.name), ("target_realm", .text targetRealm),
      ("user_roles", .names roles), ("allowed_roles", .names (role.allowedRoles c))]

/-- Check a role-restricted action on a user of a realm. -/
def onUser (role : RoleAction) (b : Backend) (ctx : Context) (targetRealm user : String) : Ruling :=
  withToken ctx fun token =>
    withAnswer (.adminConfiguration targetRealm) .store (b.adminConfiguration targetRealm) fun c =>
      withAnswer (.roleNamesOfUser token targetRealm user) .identity
        (b.roleNamesOfUser token targetRealm user) fun roles =>
          role.decide ctx targetRealm roles c

/-- Check a role-restricted action of the actor on itself. -/
def onSelf (role : RoleAction) (b : Backend) (ctx : Context) : Ruling :=
  withRealm ctx fun realm =>
    withAnswer (.adminConfiguration realm) .store (b.adminConfiguration realm) fun c =>
      role.decide ctx realm ctx.roleNames c

end RoleAction

end RealmAccess
