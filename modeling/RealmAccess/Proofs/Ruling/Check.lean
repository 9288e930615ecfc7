/-
RealmAccess.Proofs.Ruling.Check — the checks that a context drives.

An actor is checked in seven ways: on a realm, on a group by its name or by
its identifier, on a user, on the actor itself, and by role on a user or on
the actor itself. As values of one type they can be spoken of all at once;
`Check.ruling` says what each of them comes to, and a service that is told to
make one comes to just that (`Service.run_check`).

A check that needs a value of the context goes on with it or ends for want
of it, and one that makes a request goes on with the answer or ends with the
failure. The equations at the end open such a step by what it reads, and
then whole checks: with a realm and groups a check on a realm, on a group or
on any one of some groups is what the matrix permits these groups.
-/
import RealmAccess.Service.Command

namespace RealmAccess

/-- A check of an actor, with what is asked about. -/
inductive Check where
  | onRealm (action targetRealm : String)
  | onGroup (action targetRealm targetGroup : String)
  | onGroupId (action targetRealm groupId : String)
  | onUser (action targetRealm user : String)
  | onSelf (action : String)
  | roleOnUser (role : RoleAction) (targetRealm user : String)
  | roleOnSelf (role : RoleAction)
  deriving DecidableEq

/-- The name of the action that a check is about. -/
def Check.actionName : Check → String
  | .onRealm action _ | .onGroup action _ _ | .onGroupId action _ _ | .onUser action _ _
  | .onSelf action => action
  | .roleOnUser role _ _ | .roleOnSelf role => role.name

/-- The realm that a check is about, if it is known. -/
def Check.targetRealm? (ctx : Context) : Check → Option String
  | .onRealm _ targetRealm | .onGroup _ targetRealm _ | .onGroupId _ targetRealm _
  | .onUser _ targetRealm _ | .roleOnUser _ targetRealm _ => some targetRealm
  | .onSelf _ | .roleOnSelf _ => ctx.realm

/-- What a check of the actor of a context comes to, by a policy and the services behind it. -/
def Check.ruling (c : Check) (p : Policy) (b : Backend) (ctx : Context) : Ruling :=
  match c with
  | .onRealm action targetRealm => p.onRealm ctx action targetRealm
  | .onGroup action targetRealm targetGroup => p.onGroup ctx action targetRealm targetGroup
  | .onGroupId action targetRealm groupId => p.onGroupId b ctx action targetRealm groupId
  | .onUser action targetRealm user => p.onUser b ctx action targetRealm user
  | .onSelf action => p.onSelf ctx action
  | .roleOnUser role targetRealm user => role.onUser b ctx targetRealm user
  | .roleOnSelf role => role.onSelf b ctx

/-- The command to a service to make a check. -/
def Check.command (c : Check) (ctx : Context) : Command :=
  match c with
  | .onRealm action targetRealm => .checkRealm ctx action targetRealm
  | .onGroup action targetRealm targetGroup => .checkGroup ctx action targetRealm targetGroup
  | .onGroupId action targetRealm groupId => .checkGroupId ctx action targetRealm groupId
  | .onUser action targetRealm user => .checkUser ctx action targetRealm user
  | .onSelf action => .checkSelf ctx action
  | .roleOnUser role targetRealm user => .checkRoleOnUser ctx role targetRealm user
  | .roleOnSelf role => .checkRoleOnSelf ctx role

/-- A service makes a check by its current policy and backend, and notes what the check did. -/
theorem Service.run_check (s : Service) (c : Check) (ctx : Context) :
    s.run (c.command ctx) = s.note (c.ruling s.policy s.backend ctx) := by
  cases c <;> rfl

namespace Ruling

/-! ## Steps -/

theorem withToken_eq (ctx : Context) (rest : String → Ruling) :
    withToken ctx rest = ctx.accessToken.elim (missing .accessToken) rest := by
  unfold withToken Context.requireAccessToken
  cases ctx.accessToken <;> rfl

theorem withRealm_eq (ctx : Context) (rest : String → Ruling) :
    withRealm ctx rest = ctx.realm.elim (missing .realm) rest := by
  unfold withRealm Context.requireRealm
  cases ctx.realm <;> rfl

theorem withGroups_eq (ctx : Context) (rest : List String → Ruling) :
    withGroups ctx rest = ctx.groups.elim (missing .groups) rest := by
  unfold withGroups Context.requireGroups
  cases ctx.groups <;> rfl

/-- With a realm and groups a check goes on with both. -/
theorem actor_of_context {ctx : Context} {realm : String} {groups : List String}
    (hrealm : ctx.realm = some realm) (hgroups : ctx.groups = some groups)
    (rest : String → List String → Ruling) :
    (withRealm ctx fun realm => withGroups ctx fun groups => rest realm groups) =
      rest realm groups := by
  rw [withRealm_eq, hrealm, Option.elim_some, withGroups_eq, hgroups, Option.elim_some]

@[simp] theorem withAnswer_error {ε α : Type} (call : Call) (asFailure : ε → Failure) (e : ε)
    (rest : α → Ruling) :
    withAnswer call asFailure (.error e) rest = (failed (asFailure e)).after call := rfl

@[simp] theorem withAnswer_ok {ε α : Type} (call : Call) (asFailure : ε → Failure) (a : α)
    (rest : α → Ruling) : withAnswer call asFailure (.ok a) rest = (rest a).after call := rfl

theorem verdict_allowIf (allowed : Bool) (ctx : Context) (message : String)
    (fields : List (String × EventValue)) :
    (allowIf allowed ctx message fields).verdict =
      if allowed then .allow else .deny .forbidden := by
  cases allowed <;> rfl

end Ruling

namespace Policy

open Ruling

variable (p : Policy) (b : Backend) {ctx : Context} {token : String}

/-! ## Checks that the context decides -/

section

variable {realm : String} {groups : List String}

/-- A check on a realm is one of the actor's groups. -/
theorem verdict_onRealm (hrealm : ctx.realm = some realm) (hgroups : ctx.groups = some groups)
    (action targetRealm : String) :
    (p.onRealm ctx action targetRealm).verdict =
      p.groupsOnRealm realm groups action targetRealm := by
  rw [onRealm, actor_of_context hrealm hgroups, verdict_allowIf, groupsOnRealm]

/-- A check on a group is one of the actor's groups. -/
theorem verdict_onGroup (hrealm : ctx.realm = some realm) (hgroups : ctx.groups = some groups)
    (action targetRealm targetGroup : String) :
    (p.onGroup ctx action targetRealm targetGroup).verdict =
      p.groupsOnGroup realm groups action targetRealm targetGroup := by
  rw [onGroup, actor_of_context hrealm hgroups, verdict_allowIf, groupsOnGroup]

/-- A check on any one of some groups asks the matrix about each of them. -/
theorem verdict_onAnyGroup (hrealm : ctx.realm = some realm) (hgroups : ctx.groups = some groups)
    (action targetRealm : String) (targetGroups : List String) :
    (p.onAnyGroup ctx action targetRealm targetGroups).verdict =
      if targetGroups.any (p.matrix.permitsGroup p.primaryRealm realm groups action targetRealm ·)
      then .allow else .deny .forbidden := by
  rw [onAnyGroup, actor_of_context hrealm hgroups, verdict_allowIf]

end

/-! ## Checks that look something up -/

/-- With a token, a check on a group identifier is decided by the name that comes back. -/
theorem verdict_onGroupId (htoken : ctx.accessToken = some token)
    (action targetRealm groupId : String) :
    (p.onGroupId b ctx action targetRealm groupId).verdict =
      match b.groupName token targetRealm groupId with
      | .error e => .deny (.ofFailure (.identity e))
      | .ok name =>
        if name = "" then .deny .forbidden else (p.onGroup ctx action targetRealm name).verdict := by
  rw [onGroupId, withToken_eq, htoken, Option.elim_some]
  cases b.groupName token targetRealm groupId with
  | error e => rfl
  | ok name =>
    rw [withAnswer_ok, verdict_after]
    exact apply_ite verdict (name = "") _ _

/-- With a token, a check on a user is decided by the groups that come back. -/
theorem verdict_onUser (htoken : ctx.accessToken = some token) (action targetRealm user : String) :
    (p.onUser b ctx action targetRealm user).verdict =
      match b.groupNamesOfUser token targetRealm user with
      | .error e => .deny (.ofFailure (.identity e))
      | .ok groups => (p.onAnyGroup ctx action targetRealm groups).verdict := by
  rw [onUser, withToken_eq, htoken, Option.elim_some]
  cases b.groupNamesOfUser token targetRealm user <;> rfl

end Policy

end RealmAccess
