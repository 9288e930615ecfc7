/-
RealmAccess.Proofs.Ruling.Lookup — what is looked up decides as if it had
been given.

A group identifier, a user and the actor itself are three ways to name the
groups that a check is about. Once the identity provider has answered, all
of them come down to the check on a group by its name: a user is as open as
the most open of the user's groups (`onAnyGroup_eq_allow`), and a group
identifier is what its name is. Nothing opens by default: a user without
groups and an identifier without a name are refused even where the rows
cover every group, or the group without a name.

An actor who is looked up as a user is judged as the actor itself, provided
that the provider says of the actor what the context says. This holds of
both kinds of check, in verdict and in what is logged; the calls differ, as
only a lookup makes one.
-/
import RealmAccess.Directory
import RealmAccess.Proofs.Matrix.Decision
import RealmAccess.Proofs.Ruling.Check

namespace RealmAccess

/-! ## Any one of some groups -/

namespace Policy

variable (p : Policy) {ctx : Context} {realm : String} {groups : List String}

/-- Any one of some groups may be acted on if one of them may. -/
theorem onAnyGroup_eq_allow (hrealm : ctx.realm = some realm) (hgroups : ctx.groups = some groups)
    (action targetRealm : String) (targetGroups : List String) :
    (p.onAnyGroup ctx action targetRealm targetGroups).verdict = .allow ↔
      ∃ g ∈ targetGroups, (p.onGroup ctx action targetRealm g).verdict = .allow := by
  rw [p.verdict_onAnyGroup hrealm hgroups, Verdict.ite_eq_allow, List.any_eq_true]
  simp only [p.verdict_onGroup hrealm hgroups, groupsOnGroup_eq_allow]

/-- What is not allowed on any one of some groups is forbidden, and for no other cause. -/
theorem onAnyGroup_eq_deny (hrealm : ctx.realm = some realm) (hgroups : ctx.groups = some groups)
    (action targetRealm : String) (targetGroups : List String) :
    (p.onAnyGroup ctx action targetRealm targetGroups).verdict = .deny .forbidden ↔
      (p.onAnyGroup ctx action targetRealm targetGroups).verdict ≠ .allow := by
  rw [p.verdict_onAnyGroup hrealm hgroups, Verdict.ite_eq_deny, Ne, Verdict.ite_eq_allow]

/-- Any one of one group is that group. -/
theorem verdict_onAnyGroup_singleton (hrealm : ctx.realm = some realm)
    (hgroups : ctx.groups = some groups) (action targetRealm targetGroup : String) :
    (p.onAnyGroup ctx action targetRealm [targetGroup]).verdict =
      (p.onGroup ctx action targetRealm targetGroup).verdict := by
  rw [p.verdict_onAnyGroup hrealm hgroups, p.verdict_onGroup hrealm hgroups, List.any_cons,
    List.any_nil, Bool.or_false, groupsOnGroup]

/-- **A lookup decides by the names it returns.** With a token, a realm and groups, a check on a
user is allowed if a check on one of the groups that come back is, and forbidden otherwise, so that
a user without groups is forbidden whatever the matrix. A check on a group identifier is forbidden
if the name that comes back is empty, whatever the matrix, and is the check on that name otherwise;
which is also what a check on a user comes to whose one group has that name. -/
theorem lookups_decide_by_name (p : Policy) (b : Backend) {ctx : Context} {token realm : String}
    {groups : List String} (htoken : ctx.accessToken = some token) (hrealm : ctx.realm = some realm)
    (hgroups : ctx.groups = some groups) (action targetRealm : String) :
    (∀ user targetGroups, b.groupNamesOfUser token targetRealm user = .ok targetGroups →
      let verdict := (p.onUser b ctx action targetRealm user).verdict
      let allowed := ∃ g ∈ targetGroups, (p.onGroup ctx action targetRealm g).verdict = .allow
      (verdict = .allow ↔ allowed) ∧ (verdict = .deny .forbidden ↔ ¬ allowed) ∧
        (targetGroups = [] → verdict = .deny .forbidden)) ∧
    (∀ groupId name, b.groupName token targetRealm groupId = .ok name →
      let verdict := (p.onGroupId b ctx action targetRealm groupId).verdict
      (name = "" → verdict = .deny .forbidden) ∧
        (name ≠ "" → verdict = (p.onGroup ctx action targetRealm name).verdict)) ∧
    (∀ user name, b.groupNamesOfUser token targetRealm user = .ok [name] →
      (p.onUser b ctx action targetRealm user).verdict =
        (p.onGroup ctx action targetRealm name).verdict) := by
  refine ⟨?_, ?_, ?_⟩
  · intro user targetGroups hanswer verdict allowed
    have hverdict : verdict = (p.onAnyGroup ctx action targetRealm targetGroups).verdict := by
      simp only [verdict, p.verdict_onUser b htoken, hanswer]
    have hallow : verdict = .allow ↔ allowed := by
      rw [hverdict]
      exact p.onAnyGroup_eq_allow hrealm hgroups action targetRealm targetGroups
    have hdeny : verdict = .deny .forbidden ↔ ¬ allowed := by
      rw [← hallow, hverdict]
      exact p.onAnyGroup_eq_deny hrealm hgroups action targetRealm targetGroups
    refine ⟨hallow, hdeny, ?_⟩
    rintro rfl
    rw [hdeny]
    rintro ⟨g, hg, -⟩
    cases hg
  · intro groupId name hanswer
    have hverdict := p.verdict_onGroupId b htoken action targetRealm groupId
    rw [hanswer] at hverdict
    refine ⟨?_, ?_⟩
    · intro hname
      rw [hverdict]
      exact if_pos hname
    · intro hname
      rw [hverdict]
      exact if_neg hname
  · intro user name hanswer
    rw [p.verdict_onUser b htoken, hanswer]
    exact p.verdict_onAnyGroup_singleton hrealm hgroups action targetRealm name

/-- Where the rows cover every group, and the one without a name, a user without groups and an
unknown group identifier are refused all the same. -/
theorem unnamed_groups_stay_closed :
    let p : Policy := ⟨Matrix.load
      [⟨"master", "toe", "GetUser", some "*", some "*"⟩,
        ⟨"master", "toe", "GetUser", some "dep", some ""⟩], "master"⟩
    let users := ({} : Directory).setUserGroups "dep" "u-1" ["clerks"]
    let b : Backend := .ofMemory (users.setGroupName "dep" "g-1" "clerks") {}
    let ctx : Context :=
      { accessToken := some "TOKEN", realm := some "master", groups := some ["tic", "toe"] }
    (p.onGroup ctx "GetUser" "dep" "").verdict = .allow ∧
      (p.onUser b ctx "GetUser" "dep" "u-2").verdict = .deny .forbidden ∧
      (p.onGroupId b ctx "GetUser" "dep" "g-2").verdict = .deny .forbidden ∧
      (p.onUser b ctx "GetUser" "dep" "u-1").verdict = .allow ∧
      (p.onGroupId b ctx "GetUser" "dep" "g-1").verdict =
        (p.onUser b ctx "GetUser" "dep" "u-1").verdict := by
  intro p users b ctx
  have htoken : ctx.accessToken = some "TOKEN" := rfl
  have hrealm : ctx.realm = some "master" := rfl
  have hgroups : ctx.groups = some ["tic", "toe"] := rfl
  obtain ⟨huser, hgroupId, hsingle⟩ :=
    p.lookups_decide_by_name b htoken hrealm hgroups "GetUser" "dep"
  have hclerks : (p.onGroup ctx "GetUser" "dep" "clerks").verdict = .allow := by decide
  refine ⟨by decide, (huser "u-2" [] rfl).2.2 rfl, (hgroupId "g-2" "" rfl).1 rfl, ?_, ?_⟩
  · exact (huser "u-1" ["clerks"] rfl).1.mpr ⟨"clerks", by decide, hclerks⟩
  · rw [(hgroupId "g-1" "clerks" rfl).2 (by decide), hsingle "u-1" "clerks" rfl]

end Policy

/-! ## The actor looked up as a user -/

section

open Ruling

variable {b : Backend} {ctx : Context} {token realm user : String}

/-- An actor of whose groups the provider says what the context says is judged on itself as on that
user, but for the lookup. -/
theorem Policy.onUser_of_own_groups (p : Policy) {groups : List String}
    (htoken : ctx.accessToken = some token) (hrealm : ctx.realm = some realm)
    (hanswer : b.groupNamesOfUser token realm user = .ok groups)
    (hown : ∀ own, ctx.groups = some own → groups = own) (action : String) :
    p.onUser b ctx action realm user =
      (p.onSelf ctx action).after (.groupNamesOfUser token realm user) := by
  rw [onUser, withToken_eq, htoken, Option.elim_some, hanswer, withAnswer_ok, onSelf, withRealm_eq,
    hrealm, Option.elim_some, withGroups_eq]
  cases hgroups : ctx.groups with
  | none =>
    -- Neither check gets to the groups it would decide by.
    rw [onAnyGroup, withRealm_eq, hrealm, Option.elim_some, withGroups_eq, hgroups]
    rfl
  | some own => rw [hown own hgroups, Option.elim_some]

/-- An actor of whose roles the provider says what the context says is judged by role on itself as
on that user, but for the lookup. -/
theorem RoleAction.onUser_of_own_roles (role : RoleAction)
    (htoken : ctx.accessToken = some token) (hrealm : ctx.realm = some realm)
    (hanswer : b.roleNamesOfUser token realm user = .ok ctx.roleNames) :
    (role.onUser b ctx realm user).verdict = (role.onSelf b ctx).verdict ∧
      (role.onUser b ctx realm user).events = (role.onSelf b ctx).events := by
  rw [onUser, withToken_eq, htoken, Option.elim_some, onSelf, withRealm_eq, hrealm,
    Option.elim_some]
  cases b.adminConfiguration realm with
  | error failure => exact ⟨rfl, rfl⟩
  | ok c =>
    rw [withAnswer_ok, withAnswer_ok, hanswer, withAnswer_ok]
    exact ⟨rfl, rfl⟩

end

/-- **An actor is judged alike on itself and as a user.** Where the identity provider knows the
groups of the context for a user of the actor's own realm (any groups, if the context has none), a
check on that user and one of the actor on itself have one verdict and log the same; and so have the
checks by role, whatever comes of the admin configuration, where it knows the roles of the context
(none, if the context has no list). -/
theorem Check.self_judged_as_user (p : Policy) (b : Backend) {ctx : Context} {token realm : String}
    (htoken : ctx.accessToken = some token) (hrealm : ctx.realm = some realm) (user : String) :
    (∀ groups, b.groupNamesOfUser token realm user = .ok groups →
      (∀ own, ctx.groups = some own → groups = own) → ∀ action,
        (p.onUser b ctx action realm user).verdict = (p.onSelf ctx action).verdict ∧
          (p.onUser b ctx action realm user).events = (p.onSelf ctx action).events) ∧
    (b.roleNamesOfUser token realm user = .ok (ctx.roles.getD []) → ∀ role : RoleAction,
      (role.onUser b ctx realm user).verdict = (role.onSelf b ctx).verdict ∧
        (role.onUser b ctx realm user).events = (role.onSelf b ctx).events) := by
  constructor
  · intro groups hanswer hown action
    rw [p.onUser_of_own_groups htoken hrealm hanswer hown]
    exact ⟨rfl, rfl⟩
  · intro hanswer role
    exact role.onUser_of_own_roles htoken hrealm hanswer

/-- An actor with a group that may act on other groups only, and with no list of roles where one is
asked for, is refused on itself as on that user, with the same events. -/
theorem Check.refused_actor_judged_as_user :
    let p : Policy := ⟨Matrix.load [⟨"dep", "toe", "GetUser", some "dep", some "clerks"⟩], "master"⟩
    let b : Backend := .ofMemory (({} : Directory).setUserGroups "dep" "u-1" ["toe"])
      (({} : AdminStore).set "dep" { videoRoles := some ["officer"] })
    let ctx : Context :=
      { accessToken := some "TOKEN", realm := some "dep", groups := some ["toe"] }
    let byGroup := p.onUser b ctx "GetUser" "dep" "u-1"
    let byRole := RoleAction.videoIdentification.onUser b ctx "dep" "u-1"
    (p.onSelf ctx "GetUser").verdict = .deny .forbidden ∧ byGroup.verdict = .deny .forbidden ∧
      byGroup.events = (p.onSelf ctx "GetUser").events ∧
      (RoleAction.videoIdentification.onSelf b ctx).verdict = .deny .forbidden ∧
      byRole.verdict = .deny .forbidden ∧
      byRole.events = (RoleAction.videoIdentification.onSelf b ctx).events := by
  intro p b ctx byGroup byRole
  have htoken : ctx.accessToken = some "TOKEN" := rfl
  have hrealm : ctx.realm = some "dep" := rfl
  obtain ⟨hgroups, hroles⟩ := self_judged_as_user p b htoken hrealm "u-1"
  obtain ⟨hverdict, hevents⟩ := hgroups ["toe"] rfl (fun own hown => Option.some.inj hown) "GetUser"
  obtain ⟨hverdict', hevents'⟩ := hroles rfl .videoIdentification
  have hself : (p.onSelf ctx "GetUser").verdict = .deny .forbidden := by decide
  have hself' : (RoleAction.videoIdentification.onSelf b ctx).verdict = .deny .forbidden := by
    decide
  exact ⟨hself, hverdict.trans hself, hevents, hself', hverdict'.trans hself', hevents'⟩

end RealmAccess
