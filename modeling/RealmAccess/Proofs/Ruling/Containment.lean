/-
RealmAccess.Proofs.Ruling.Containment — who may act on something in a realm
may act on the realm.

A right on a group is kept under the key of its realm, so the entry that
lets an actor at the group is there when the realm is asked for, and the
same three keys count. This holds of any matrix, loaded or not
(`permitsRealm_of_permitsGroup`): the realm check looks for the entry alone
and the group check looks into it as well.

Groups by identifier, users and the actor itself come down to groups by
name. An identifier has one name, and of several groups one has to be let
at. So the realm is open wherever anything in it is, whatever the identity
provider answers. A check that is allowed has read realm and groups, hence
neither is asked of the context.
-/
import RealmAccess.Proofs.Ruling.Lookup

namespace RealmAccess

/-! ## One matrix -/

theorem Grants.contains_of_holds {grants : Grants} {k g : Key} (h : grants.holds k g = true) :
    grants.contains k = true := by
  rw [holds, Option.any_eq_true] at h
  obtain ⟨groups, hgroups, -⟩ := h
  rw [Table.contains, hgroups, Option.isSome_some]

/-- Groups that may perform an action on a target group may perform it on its realm. -/
theorem Matrix.permitsRealm_of_permitsGroup {m : Matrix} {primaryRealm realm : String}
    {groups : List String} {action targetRealm targetGroup : String}
    (h : m.permitsGroup primaryRealm realm groups action targetRealm targetGroup = true) :
    m.permitsRealm primaryRealm realm groups action targetRealm = true := by
  rw [permitsGroup, List.any_eq_true] at h
  obtain ⟨group, hgroup, hreach⟩ := h
  obtain ⟨k, g, hk, -, hholds⟩ := (Grants.any_reachGroup _ _ _ _).mp hreach
  rw [Option.any_eq_true] at hholds
  obtain ⟨grants, hgrants, hholds⟩ := hholds
  have hcontains : (m.grants realm group action).any (·.contains k) = true := by
    rw [hgrants, Option.any_some]
    exact Grants.contains_of_holds hholds
  rw [permitsRealm, List.any_eq_true]
  exact ⟨group, hgroup, (Grants.any_reachRealm _ _ _).mpr ⟨k, hk, hcontains⟩⟩

/-! ## Checks that are allowed -/

open Ruling in
/-- A check that is allowed had a realm and groups to go on with. -/
theorem Ruling.actor_of_allow {ctx : Context} {rest : String → List String → Ruling}
    (h : (withRealm ctx fun realm => withGroups ctx fun groups => rest realm groups).verdict =
      .allow) :
    ∃ realm groups, ctx.realm = some realm ∧ ctx.groups = some groups := by
  rw [withRealm_eq] at h
  cases hrealm : ctx.realm with
  | none =>
    rw [hrealm] at h
    cases h
  | some realm =>
    rw [hrealm, Option.elim_some, withGroups_eq] at h
    cases hgroups : ctx.groups with
    | none =>
      rw [hgroups] at h
      cases h
    | some groups => exact ⟨realm, groups, rfl, rfl⟩

open Ruling in
theorem Ruling.token_of_allow {ctx : Context} {rest : String → Ruling}
    (h : (withToken ctx rest).verdict = .allow) : ∃ token, ctx.accessToken = some token := by
  rw [withToken_eq] at h
  cases htoken : ctx.accessToken with
  | none =>
    rw [htoken] at h
    cases h
  | some token => exact ⟨token, rfl⟩

namespace Policy

variable {p : Policy} {ctx : Context} {action targetRealm : String}

/-- An actor allowed on a group is allowed on its realm. -/
theorem onRealm_of_onGroup {targetGroup : String}
    (h : (p.onGroup ctx action targetRealm targetGroup).verdict = .allow) :
    (p.onRealm ctx action targetRealm).verdict = .allow := by
  obtain ⟨realm, groups, hrealm, hgroups⟩ := Ruling.actor_of_allow h
  rw [p.verdict_onGroup hrealm hgroups, groupsOnGroup_eq_allow] at h
  rw [p.verdict_onRealm hrealm hgroups, groupsOnRealm_eq_allow]
  exact Matrix.permitsRealm_of_permitsGroup h

theorem onRealm_of_onAnyGroup {targetGroups : List String}
    (h : (p.onAnyGroup ctx action targetRealm targetGroups).verdict = .allow) :
    (p.onRealm ctx action targetRealm).verdict = .allow := by
  obtain ⟨realm, groups, hrealm, hgroups⟩ := Ruling.actor_of_allow h
  rw [p.onAnyGroup_eq_allow hrealm hgroups] at h
  obtain ⟨g, -, hg⟩ := h
  exact onRealm_of_onGroup hg

end Policy

/-! ## Main statement -/

namespace Check

/-- A check is about an action on something in a realm: on a group, by its name or its identifier,
on a user, or on the actor itself, who is in its own realm. -/
inductive Within (ctx : Context) (action targetRealm : String) : Check → Prop
  | group (targetGroup : String) :
      Within ctx action targetRealm (.onGroup action targetRealm targetGroup)
  | groupId (groupId : String) : Within ctx action targetRealm (.onGroupId action targetRealm groupId)
  | user (user : String) : Within ctx action targetRealm (.onUser action targetRealm user)
  | self (hrealm : ctx.realm = some targetRealm) : Within ctx action targetRealm (.onSelf action)

/-- **What is allowed on something in a realm is allowed on the realm**, by the same matrix,
whatever the identity provider answered. -/
theorem realm_allowed_of_within (p : Policy) (b : Backend) {ctx : Context}
    {action targetRealm : String} {c : Check} (hc : c.Within ctx action targetRealm)
    (hallow : (c.ruling p b ctx).verdict = .allow) :
    (p.onRealm ctx action targetRealm).verdict = .allow := by
  cases hc with
  | group targetGroup => exact Policy.onRealm_of_onGroup hallow
  | groupId groupId =>
    obtain ⟨token, htoken⟩ := Ruling.token_of_allow hallow
    rw [ruling, p.verdict_onGroupId b htoken] at hallow
    cases hanswer : b.groupName token targetRealm groupId with
    | error e =>
      rw [hanswer] at hallow
      cases hallow
    | ok name =>
      simp only [hanswer] at hallow
      split at hallow
      · cases hallow
      · exact Policy.onRealm_of_onGroup hallow
  | user user =>
    obtain ⟨token, htoken⟩ := Ruling.token_of_allow hallow
    rw [ruling, p.verdict_onUser b htoken] at hallow
    cases hanswer : b.groupNamesOfUser token targetRealm user with
    | error e =>
      rw [hanswer] at hallow
      cases hallow
    | ok groups =>
      rw [hanswer] at hallow
      exact Policy.onRealm_of_onAnyGroup hallow
  | self hrealm =>
    obtain ⟨realm, groups, hrealm', hgroups⟩ := Ruling.actor_of_allow hallow
    obtain rfl : realm = targetRealm := Option.some.inj (hrealm'.symm.trans hrealm)
    rw [ruling, Policy.onSelf, Ruling.actor_of_context hrealm hgroups] at hallow
    exact Policy.onRealm_of_onAnyGroup hallow

/-- A user of a realm other than the primary one, one of whose groups a row on `/` names, may be
acted on, and so may the realm; a row without a target group opens a realm and no user. -/
theorem users_reached_through_their_realm :
    let p : Policy := ⟨Matrix.load [⟨"master", "toe", "GetUser", some "/", some "clerks"⟩,
      ⟨"master", "toe", "GetRealm", some "/", none⟩], "master"⟩
    let b : Backend := .ofMemory (({} : Directory).setUserGroups "dep" "u-1" ["guests", "clerks"]) {}
    let ctx : Context :=
      { accessToken := some "TOKEN", realm := some "master", groups := some ["tic", "toe"] }
    let c : Check := .onUser "GetUser" "dep" "u-1"
    c.Within ctx "GetUser" "dep" ∧ (c.ruling p b ctx).verdict = .allow ∧
      (p.onRealm ctx "GetUser" "dep").verdict = .allow ∧
      (p.onRealm ctx "GetRealm" "dep").verdict = .allow ∧
      (p.onUser b ctx "GetRealm" "dep" "u-1").verdict = .deny .forbidden := by
  intro p b ctx c
  have hwithin : c.Within ctx "GetUser" "dep" := .user "u-1"
  have hallow : (c.ruling p b ctx).verdict = .allow := by decide
  exact ⟨hwithin, hallow, realm_allowed_of_within p b hwithin hallow, by decide, by decide⟩

end Check

end RealmAccess
