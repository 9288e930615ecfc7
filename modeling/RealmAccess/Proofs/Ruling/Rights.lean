/-
RealmAccess.Proofs.Ruling.Rights — what is listed is what is enforced.

A listing of rights shows an actor the matrix of the actor's own groups, as
tokens; a check decides by keys. The two tell the same: a check is allowed
just if the listing shows, under some group and the action, a token that
covers the target (`rights_tell_verdicts`). So no right is shown that is not
enforced, and none is enforced that is not shown.

This needs the matrix to come from rows. A key that is spelled like a
reserved token and is not that token would be shown as if it were;
`Key.parse` never reads one, so no loaded matrix holds one
(`Matrix.parse_token_of_contains`).
-/
import RealmAccess.Proofs.Matrix.Decision
import RealmAccess.Proofs.Matrix.Listing
import RealmAccess.Proofs.Ruling.Check

namespace RealmAccess

/-! ## Tokens that cover a target -/

namespace Key

theorem reachesRealm_iff_token {primaryRealm targetRealm : String} {k : Key}
    (h : parse k.token = k) :
    k.ReachesRealm primaryRealm targetRealm ↔
      k.token = anyToken ∨ k.token = targetRealm ∨
        k.token = nonPrimaryToken ∧ targetRealm ≠ primaryRealm := by
  have hparse := @reachesRealm_parse primaryRealm targetRealm k.token
  rwa [h] at hparse

theorem reachesGroup_iff_token {targetGroup : String} {g : Key} (h : parse g.token = g) :
    g.ReachesGroup targetGroup ↔ g.token = anyToken ∨ g.token = targetGroup := by
  have hparse := @reachesGroup_parse targetGroup g.token
  rwa [h] at hparse

end Key

namespace Policy

/-! ## Listings -/

/-- Under some group the actor of a context is listed to perform an action on some targets. -/
def Lists (p : Policy) (ctx : Context) (action : String) (grants : Grants) : Prop :=
  ∃ group rights, (p.rights ctx).find? group = some rights ∧ rights.find? action = some grants

/-- What is listed are grants of the matrix. -/
theorem Lists.grants {p : Policy} {ctx : Context} {action : String} {grants : Grants}
    (h : p.Lists ctx action grants) :
    ∃ realm group, p.matrix.grants realm group action = some grants := by
  obtain ⟨group, rights, hrights, hgrants⟩ := h
  obtain ⟨realm, hmatrix⟩ := grants_of_find?_rights hrights hgrants
  exact ⟨realm, group, hmatrix⟩

/-- Keys listed from rows are those that their tokens read as. -/
theorem Lists.parse_token_of_contains {rules : List Rule} {primaryRealm action : String}
    {ctx : Context} {grants : Grants} {k : Key}
    (h : Lists ⟨Matrix.load rules, primaryRealm⟩ ctx action grants)
    (hk : grants.contains k = true) : Key.parse k.token = k := by
  obtain ⟨_, _, hgrants⟩ := h.grants
  exact Matrix.parse_token_of_contains hgrants hk

theorem Lists.parse_token_of_holds {rules : List Rule} {primaryRealm action : String}
    {ctx : Context} {grants : Grants} {k g : Key}
    (h : Lists ⟨Matrix.load rules, primaryRealm⟩ ctx action grants)
    (hg : grants.holds k g = true) : Key.parse k.token = k ∧ Key.parse g.token = g := by
  obtain ⟨_, _, hgrants⟩ := h.grants
  exact Matrix.parse_token_of_holds hgrants hg

theorem rights_of_missing {p : Policy} {ctx : Context} (h : ctx.realm = none ∨ ctx.groups = none) :
    p.rights ctx = ∅ := by
  unfold rights
  obtain hrealm | hgroups := h
  · rw [hrealm]
  · rw [hgroups]
    cases ctx.realm <;> rfl

section

variable {p : Policy} {ctx : Context} {realm : String} {groups : List String}

theorem rights_of_actor (hrealm : ctx.realm = some realm) (hgroups : ctx.groups = some groups) :
    p.rights ctx = p.matrix.rightsOf realm groups := by
  rw [rights, hrealm, hgroups]

/-- The actor is listed what the matrix grants the actor's groups. -/
theorem lists_iff (hrealm : ctx.realm = some realm) (hgroups : ctx.groups = some groups)
    {action : String} {grants : Grants} :
    p.Lists ctx action grants ↔
      ∃ group ∈ groups, p.matrix.grants realm group action = some grants := by
  unfold Lists
  simp only [rights_of_actor hrealm hgroups, Matrix.find?_rightsOf, Matrix.grants,
    Option.bind_eq_some_iff]
  constructor
  · rintro ⟨group, rights, ⟨hgroup, hrights⟩, hgrants⟩
    exact ⟨group, hgroup, rights, hrights, hgrants⟩
  · rintro ⟨group, hgroup, rights, hrights, hgrants⟩
    exact ⟨group, rights, ⟨hgroup, hrights⟩, hgrants⟩

/-- A group is listed if it is the actor's and has rights. -/
theorem contains_rights (hrealm : ctx.realm = some realm) (hgroups : ctx.groups = some groups)
    (group : String) :
    (p.rights ctx).contains group = true ↔
      group ∈ groups ∧ (p.matrix.groupRights realm group).isSome = true := by
  rw [Table.contains, Option.isSome_iff_exists, rights_of_actor hrealm hgroups,
    Option.isSome_iff_exists]
  simp only [Matrix.find?_rightsOf, exists_and_left]

/-! ## Verdicts -/

/-- A realm is allowed if a key is listed that reaches it. -/
theorem onRealm_eq_allow (hrealm : ctx.realm = some realm) (hgroups : ctx.groups = some groups)
    (action targetRealm : String) :
    (p.onRealm ctx action targetRealm).verdict = .allow ↔
      ∃ grants, p.Lists ctx action grants ∧
        ∃ k, k.ReachesRealm p.primaryRealm targetRealm ∧ grants.contains k = true := by
  rw [p.verdict_onRealm hrealm hgroups, groupsOnRealm_eq_allow, Matrix.permitsRealm]
  simp only [List.any_eq_true, Grants.any_reachRealm, lists_iff hrealm hgroups]
  simp only [Option.any_eq_true]
  constructor
  · rintro ⟨group, hgroup, k, hk, grants, hgrants, hcontains⟩
    exact ⟨grants, ⟨group, hgroup, hgrants⟩, k, hk, hcontains⟩
  · rintro ⟨grants, ⟨group, hgroup, hgrants⟩, k, hk, hcontains⟩
    exact ⟨group, hgroup, k, hk, grants, hgrants, hcontains⟩

/-- A group is allowed if a key is listed that reaches it, under one that reaches its realm. -/
theorem onGroup_eq_allow (hrealm : ctx.realm = some realm) (hgroups : ctx.groups = some groups)
    (action targetRealm targetGroup : String) :
    (p.onGroup ctx action targetRealm targetGroup).verdict = .allow ↔
      ∃ grants, p.Lists ctx action grants ∧
        ∃ k g, k.ReachesRealm p.primaryRealm targetRealm ∧ g.ReachesGroup targetGroup ∧
          grants.holds k g = true := by
  rw [p.verdict_onGroup hrealm hgroups, groupsOnGroup_eq_allow, Matrix.permitsGroup]
  simp only [List.any_eq_true, Grants.any_reachGroup, lists_iff hrealm hgroups]
  simp only [Option.any_eq_true]
  constructor
  · rintro ⟨group, hgroup, k, g, hk, hg, grants, hgrants, hholds⟩
    exact ⟨grants, ⟨group, hgroup, hgrants⟩, k, g, hk, hg, hholds⟩
  · rintro ⟨grants, ⟨group, hgroup, hgrants⟩, k, g, hk, hg, hholds⟩
    exact ⟨group, hgroup, k, g, hk, hg, grants, hgrants, hholds⟩

end

/-! ## Main statement -/

/-- **A listing of rights tells every verdict.** For an actor with a realm and groups, the groups
listed are those of the actor that some row of that realm is about. A check on a realm is allowed
just if the listing shows under the action, for some group, the token `*`, the realm itself or, off
the primary realm, `/`; and a check on a group just if under one of these it shows `*` or the group
itself. Without a realm or without groups nothing is listed. -/
theorem rights_tell_verdicts (rules : List Rule) (primaryRealm : String) (ctx : Context) :
    let p : Policy := ⟨Matrix.load rules, primaryRealm⟩
    (∀ realm groups, ctx.realm = some realm → ctx.groups = some groups →
      (∀ group, (p.rights ctx).contains group = true ↔
        group ∈ groups ∧ ∃ rule ∈ rules, rule.userRealm = realm ∧ rule.userGroup = group) ∧
      ∀ action targetRealm,
        let covers (k : Key) := k.token = "*" ∨ k.token = targetRealm ∨
          k.token = "/" ∧ targetRealm ≠ primaryRealm
        ((p.onRealm ctx action targetRealm).verdict = .allow ↔
          ∃ grants, p.Lists ctx action grants ∧ ∃ k, covers k ∧ grants.contains k = true) ∧
        ∀ targetGroup, ((p.onGroup ctx action targetRealm targetGroup).verdict = .allow ↔
          ∃ grants, p.Lists ctx action grants ∧ ∃ k g, covers k ∧
            (g.token = "*" ∨ g.token = targetGroup) ∧ grants.holds k g = true)) ∧
    (ctx.realm = none ∨ ctx.groups = none → p.rights ctx = ∅) := by
  intro p
  refine ⟨?_, rights_of_missing⟩
  intro realm groups hrealm hgroups
  refine ⟨?_, ?_⟩
  · intro group
    rw [contains_rights hrealm hgroups, Matrix.isSome_groupRights_load]
  · intro action targetRealm covers
    refine ⟨?_, ?_⟩
    · rw [onRealm_eq_allow hrealm hgroups]
      constructor
      · rintro ⟨grants, hlists, k, hk, hcontains⟩
        have htoken := hlists.parse_token_of_contains hcontains
        exact ⟨grants, hlists, k, (Key.reachesRealm_iff_token htoken).mp hk, hcontains⟩
      · rintro ⟨grants, hlists, k, hk, hcontains⟩
        have htoken := hlists.parse_token_of_contains hcontains
        exact ⟨grants, hlists, k, (Key.reachesRealm_iff_token htoken).mpr hk, hcontains⟩
    · intro targetGroup
      rw [onGroup_eq_allow hrealm hgroups]
      constructor
      · rintro ⟨grants, hlists, k, g, hk, hg, hholds⟩
        obtain ⟨hktoken, hgtoken⟩ := hlists.parse_token_of_holds hholds
        exact ⟨grants, hlists, k, g, (Key.reachesRealm_iff_token hktoken).mp hk,
          (Key.reachesGroup_iff_token hgtoken).mp hg, hholds⟩
      · rintro ⟨grants, hlists, k, g, hk, hg, hholds⟩
        obtain ⟨hktoken, hgtoken⟩ := hlists.parse_token_of_holds hholds
        exact ⟨grants, hlists, k, g, (Key.reachesRealm_iff_token hktoken).mpr hk,
          (Key.reachesGroup_iff_token hgtoken).mpr hg, hholds⟩

/-- A group that is named twice is listed, one whose rows are of another realm is not, and a row
without targets is listed and allows nothing. -/
theorem listed_by_rows_of_the_realm :
    let p : Policy := ⟨Matrix.load
      [⟨"dep", "toe", "GetUser", some "/", some "clerks"⟩, ⟨"dep", "tic", "GetRealm", none, none⟩,
        ⟨"master", "tac", "GetUser", some "*", some "*"⟩], "master"⟩
    let ctx : Context := { realm := some "dep", groups := some ["toe", "tac", "toe", "tic"] }
    (p.rights ctx).contains "toe" = true ∧ (p.rights ctx).contains "tic" = true ∧
      (p.rights ctx).contains "tac" ≠ true ∧
      (p.onRealm ctx "GetRealm" "far").verdict = .deny .forbidden ∧
      (p.onGroup ctx "GetUser" "far" "clerks").verdict = .allow ∧
      ∃ grants, p.Lists ctx "GetUser" grants ∧ ∃ k g,
        (k.token = "*" ∨ k.token = "far" ∨ k.token = "/" ∧ "far" ≠ "master") ∧
          (g.token = "*" ∨ g.token = "clerks") ∧ grants.holds k g = true := by
  intro p ctx
  obtain ⟨hactor, -⟩ := rights_tell_verdicts
    [⟨"dep", "toe", "GetUser", some "/", some "clerks"⟩, ⟨"dep", "tic", "GetRealm", none, none⟩,
      ⟨"master", "tac", "GetUser", some "*", some "*"⟩] "master" ctx
  obtain ⟨hlisted, hverdicts⟩ := hactor "dep" ["toe", "tac", "toe", "tic"] rfl rfl
  have hallow : (p.onGroup ctx "GetUser" "far" "clerks").verdict = .allow := by decide
  refine ⟨(hlisted "toe").mpr (by decide), (hlisted "tic").mpr (by decide), ?_, by decide, hallow,
    ((hverdicts "GetUser" "far").2 "clerks").mp hallow⟩
  rw [Ne, hlisted "tac"]
  decide

end Policy

end RealmAccess
