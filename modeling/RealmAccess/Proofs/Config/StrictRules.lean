/-
RealmAccess.Proofs.Config.StrictRules — what strict settings say about
decisions.

Strict settings are refused unless every row names a declared action and has
the targets of its scope. That is a condition on rows, one by one; decisions
are a matter of single rows as well, so each scope shows in the decisions.
`Conforming` is the condition, `conforming_of_validate` says that validation
brings it about, and the lemmas after it go from rows to verdicts.

The empty strings and the reserved tokens need no cases of their own: a
global row names `*`, which reaches every realm, and any other row is asked
only whether it has a target, not which.
-/
import RealmAccess.Proofs.Config.Validation
import RealmAccess.Proofs.Matrix.Decision
import RealmAccess.Proofs.Matrix.Listing
import RealmAccess.Proofs.Service.LastRead

namespace RealmAccess

/-- Every row is of a declared action, and has the targets that the action's scope asks for. -/
structure Conforming (actions : List Action) (rules : List Rule) : Prop where
  declared : ∀ rule ∈ rules, ∃ a ∈ actions, a.name = rule.action
  fits : ∀ a ∈ actions, ∀ rule ∈ rules, rule.action = a.name → rule.Fits a.scope

namespace AuthorizationSettings

/-- Strict settings that are accepted have conforming rows. -/
theorem conforming_of_validate {s : AuthorizationSettings} (hstrict : s.strictRules = true)
    (h : s.validate = .ok ()) : Conforming s.actions s.rules := by
  obtain ⟨r, hr, hrules⟩ := validateRules_eq_ok.mp ((validate_eq_ok.mp h).2.2 hstrict)
  constructor
  · intro rule hrule
    obtain ⟨-, -, a, ha, -⟩ := Registry.violation_eq_none.mp (hrules rule hrule)
    exact ⟨a, (get?_registry hr).mp ha⟩
  · intro a ha rule hrule hname
    obtain ⟨-, -, b, hb, hfits⟩ := Registry.violation_eq_none.mp (hrules rule hrule)
    have hba : r.get? rule.action = some a := (get?_registry hr).mpr ⟨ha, hname.symm⟩
    rw [hb, Option.some_inj] at hba
    rw [← hba]
    exact hfits

end AuthorizationSettings

/-! ## From rows to verdicts -/

namespace Conforming

variable {actions : List Action} {rules : List Rule} {a : Action}

/-- No row is of an action that is not declared. -/
theorem ne_of_undeclared (h : Conforming actions rules) {action : String}
    (hnone : ∀ a ∈ actions, a.name ≠ action) : ∀ rule ∈ rules, rule.action ≠ action := by
  intro rule hrule haction
  obtain ⟨a, ha, hname⟩ := h.declared rule hrule
  exact hnone a ha (hname.trans haction)

theorem exists_targetRealm (h : Conforming actions rules) {rule : Rule} (hrule : rule ∈ rules) :
    ∃ t, rule.targetRealm = some t := by
  obtain ⟨a, ha, hname⟩ := h.declared rule hrule
  exact (h.fits a ha rule hrule hname.symm).targetRealm

/-- Without a row of the action no realm is permitted. -/
theorem realm_forbidden {action : String} (hnone : ∀ rule ∈ rules, rule.action ≠ action)
    (primaryRealm realm : String) (groups : List String) (targetRealm : String) :
    Policy.groupsOnRealm ⟨Matrix.load rules, primaryRealm⟩ realm groups action targetRealm =
      .deny .forbidden := by
  rw [Policy.groupsOnRealm_eq_deny, Ne, Policy.groupsOnRealm_eq_allow, Matrix.permitsRealm_load]
  rintro ⟨rule, hrule, ⟨-, -, haction⟩, -⟩
  exact hnone rule hrule haction

/-- If no row of the action has a target group, no group is permitted. -/
theorem group_forbidden {action : String}
    (hnone : ∀ rule ∈ rules, rule.action = action → rule.targetGroup = none)
    (primaryRealm realm : String) (groups : List String) (targetRealm targetGroup : String) :
    Policy.groupsOnGroup ⟨Matrix.load rules, primaryRealm⟩ realm groups action targetRealm
      targetGroup = .deny .forbidden := by
  rw [Policy.groupsOnGroup_eq_deny, Ne, Policy.groupsOnGroup_eq_allow, Matrix.permitsGroup_load]
  rintro ⟨rule, hrule, ⟨-, -, haction⟩, -, g, hg, -⟩
  rw [hnone rule hrule haction] at hg
  cases hg

/-- Without a row of the action no listing has it. -/
theorem unlisted {action : String} (hnone : ∀ rule ∈ rules, rule.action ≠ action)
    (primaryRealm : String) {ctx : Context} {group : String} {rights : GroupRights}
    (h : (Policy.rights ⟨Matrix.load rules, primaryRealm⟩ ctx).find? group = some rights) :
    rights.contains action = false := by
  rw [Table.contains, Option.isSome_eq_false_iff, Option.isNone_iff_eq_none]
  cases hgrants : rights.find? action with
  | none => rfl
  | some grants =>
    obtain ⟨realm, hload⟩ := Policy.grants_of_find?_rights h hgrants
    obtain ⟨rule, hrule, -, -, haction⟩ :=
      (Matrix.isSome_grants_load rules realm group action).mp (by rw [hload]; rfl)
    exact absurd haction (hnone rule hrule)

/-- A global action is decided alike for all target realms: each of its rows reaches every one. -/
theorem global_uniform (h : Conforming actions rules) (ha : a ∈ actions)
    (hscope : a.scope = .global) (primaryRealm realm : String) (groups : List String)
    (t t' : String) :
    Policy.groupsOnRealm ⟨Matrix.load rules, primaryRealm⟩ realm groups a.name t =
      Policy.groupsOnRealm ⟨Matrix.load rules, primaryRealm⟩ realm groups a.name t' := by
  have hreach : ∀ targetRealm,
      (Matrix.load rules).permitsRealm primaryRealm realm groups a.name targetRealm = true ↔
        ∃ rule ∈ rules, rule.ActsFor realm groups a.name := by
    intro targetRealm
    rw [Matrix.permitsRealm_load]
    constructor
    · rintro ⟨rule, hrule, hacts, -⟩
      exact ⟨rule, hrule, hacts⟩
    · rintro ⟨rule, hrule, hacts⟩
      have hfits := h.fits a ha rule hrule hacts.2.2
      rw [hscope] at hfits
      exact ⟨rule, hrule, hacts, anyToken, hfits.1, .inl rfl⟩
  have hsame : (Matrix.load rules).permitsRealm primaryRealm realm groups a.name t =
      (Matrix.load rules).permitsRealm primaryRealm realm groups a.name t' :=
    Bool.eq_iff_iff.mpr ((hreach t).trans (hreach t').symm)
  rw [Policy.groupsOnRealm, Policy.groupsOnRealm, hsame]

/-- Rows of a global or of a realm action have no target group. -/
theorem targetGroup_eq_none (h : Conforming actions rules) (ha : a ∈ actions)
    (hscope : a.scope ≠ .group) :
    ∀ rule ∈ rules, rule.action = a.name → rule.targetGroup = none := by
  intro rule hrule haction
  have hfits := h.fits a ha rule hrule haction
  cases hs : a.scope with
  | global =>
    rw [hs] at hfits
    exact hfits.2
  | realm =>
    rw [hs] at hfits
    exact hfits.2
  | group => exact absurd hs hscope

/-- A group action is permitted on a realm if it is on one of the realm's groups: the row that
reaches the realm names the group. -/
theorem realm_iff_exists_group (h : Conforming actions rules) (ha : a ∈ actions)
    (hscope : a.scope = .group) (primaryRealm realm : String) (groups : List String)
    (targetRealm : String) :
    Policy.groupsOnRealm ⟨Matrix.load rules, primaryRealm⟩ realm groups a.name targetRealm =
        .allow ↔
      ∃ targetGroup, Policy.groupsOnGroup ⟨Matrix.load rules, primaryRealm⟩ realm groups a.name
        targetRealm targetGroup = .allow := by
  simp only [Policy.groupsOnRealm_eq_allow, Policy.groupsOnGroup_eq_allow,
    Matrix.permitsRealm_load, Matrix.permitsGroup_load]
  constructor
  · rintro ⟨rule, hrule, hacts, hrealm⟩
    have hfits := h.fits a ha rule hrule hacts.2.2
    rw [hscope] at hfits
    obtain ⟨g, hg⟩ := Option.isSome_iff_exists.mp hfits.2
    exact ⟨g, rule, hrule, hacts, hrealm, g, hg, .inr rfl⟩
  · rintro ⟨targetGroup, rule, hrule, hacts, hrealm, -⟩
    exact ⟨rule, hrule, hacts, hrealm⟩

/-- Every listed action has a target realm: the row that names it brings one. -/
theorem listed_targetRealm (h : Conforming actions rules) (primaryRealm : String) {ctx : Context}
    {group action : String} {rights : GroupRights} {grants : Grants}
    (hrights : (Policy.rights ⟨Matrix.load rules, primaryRealm⟩ ctx).find? group = some rights)
    (hgrants : rights.find? action = some grants) : ∃ k, grants.contains k = true := by
  obtain ⟨realm, hload⟩ := Policy.grants_of_find?_rights hrights hgrants
  obtain ⟨rule, hrule, hnames⟩ :=
    (Matrix.isSome_grants_load rules realm group action).mp (by rw [hload]; rfl)
  obtain ⟨t, ht⟩ := h.exists_targetRealm hrule
  have hcontains := (Matrix.contains_load rules realm group action (Key.parse t)).mpr
    ⟨rule, hrule, hnames, by rw [ht, Option.map_some]⟩
  rw [hload] at hcontains
  exact ⟨Key.parse t, hcontains⟩

end Conforming

/-! ## Main statement -/

namespace AuthorizationSettings

/-- **Strict settings make decisions follow scopes.** A service made from accepted strict settings
forbids what is not declared and does not list it. It decides a global action alike for all target
realms, and neither a global nor a realm action is allowed on any group; a group action is allowed
on a realm just if it is on some group there. What it lists has a target realm. -/
theorem decisions_follow_scopes (s : AuthorizationSettings) (directory : Directory)
    (hstrict : s.strictRules = true) (hvalid : s.validate = .ok ()) :
    let start := (Service.ofSettings s directory).start
    let p := start.2.2.policy
    start.1 = .loaded ∧
    (∀ action, (∀ a ∈ s.actions, a.name ≠ action) →
      (∀ realm groups targetRealm,
        p.groupsOnRealm realm groups action targetRealm = .deny .forbidden) ∧
      (∀ realm groups targetRealm targetGroup,
        p.groupsOnGroup realm groups action targetRealm targetGroup = .deny .forbidden) ∧
      (∀ ctx group rights, (p.rights ctx).find? group = some rights →
        rights.contains action = false)) ∧
    (∀ a ∈ s.actions, a.scope = .global →
      (∀ realm groups t t', p.groupsOnRealm realm groups a.name t =
        p.groupsOnRealm realm groups a.name t') ∧
      (∀ realm groups targetRealm targetGroup,
        p.groupsOnGroup realm groups a.name targetRealm targetGroup = .deny .forbidden)) ∧
    (∀ a ∈ s.actions, a.scope = .realm → ∀ realm groups targetRealm targetGroup,
      p.groupsOnGroup realm groups a.name targetRealm targetGroup = .deny .forbidden) ∧
    (∀ a ∈ s.actions, a.scope = .group → ∀ realm groups targetRealm,
      (p.groupsOnRealm realm groups a.name targetRealm = .allow ↔
        ∃ targetGroup, p.groupsOnGroup realm groups a.name targetRealm targetGroup = .allow)) ∧
    (∀ ctx group rights action grants, (p.rights ctx).find? group = some rights →
      rights.find? action = some grants → ∃ k, grants.contains k = true) := by
  intro start p
  have h : Conforming s.actions s.rules := conforming_of_validate hstrict hvalid
  obtain ⟨hloaded, hpolicy⟩ := Service.start_ofStores s.primaryRealm s.rules
    { configurations := s.adminConfigurations } directory
  have hp : p = ⟨Matrix.load s.rules, s.primaryRealm⟩ := hpolicy
  rw [hp]
  refine ⟨hloaded, ?_, ?_, ?_, ?_, ?_⟩
  · intro action hundeclared
    have hnone := h.ne_of_undeclared hundeclared
    refine ⟨?_, ?_, ?_⟩
    · exact Conforming.realm_forbidden hnone s.primaryRealm
    · exact Conforming.group_forbidden (fun rule hrule haction => absurd haction (hnone rule hrule))
        s.primaryRealm
    · intro ctx group rights hrights
      exact Conforming.unlisted hnone s.primaryRealm hrights
  · intro a ha hscope
    have hgroups := h.targetGroup_eq_none ha (by rw [hscope]; decide)
    exact ⟨h.global_uniform ha hscope s.primaryRealm,
      Conforming.group_forbidden hgroups s.primaryRealm⟩
  · intro a ha hscope
    exact Conforming.group_forbidden (h.targetGroup_eq_none ha (by rw [hscope]; decide))
      s.primaryRealm
  · intro a ha hscope
    exact h.realm_iff_exists_group ha hscope s.primaryRealm
  · intro ctx group rights action grants hrights hgrants
    exact h.listed_targetRealm s.primaryRealm hrights hgrants

/-- Settings with an action of every scope, one that is not granted, and a group called `/`. -/
def oneOfEach : AuthorizationSettings where
  strictRules := true
  actions := [⟨"GetRealms", .global⟩, ⟨"GetRealm", .realm⟩, ⟨"DeleteUser", .group⟩,
    ⟨"Audit", .realm⟩]
  rules := [⟨"master", "toe", "GetRealms", some "*", none⟩,
    ⟨"master", "toe", "GetRealm", some "/", none⟩,
    ⟨"master", "toe", "DeleteUser", some "dep", some "/"⟩]

/-- Settings with an action of every scope are accepted, so their decisions follow the scopes; on
`dep` the group action is allowed, for the group called `/`. -/
theorem oneOfEach_follows_scopes :
    oneOfEach.strictRules = true ∧ oneOfEach.validate = .ok () ∧
      (let p := (Service.ofSettings oneOfEach {}).start.2.2.policy
      p.groupsOnRealm "master" ["toe"] "DeleteUser" "dep" = .allow ∧
        ∃ targetGroup,
          p.groupsOnGroup "master" ["toe"] "DeleteUser" "dep" targetGroup = .allow) := by
  have hvalid : oneOfEach.validate = .ok () := by rfl
  obtain ⟨-, -, -, -, hgroup, -⟩ := decisions_follow_scopes oneOfEach {} rfl hvalid
  have hallow : (Service.ofSettings oneOfEach {}).start.2.2.policy.groupsOnRealm "master" ["toe"]
      "DeleteUser" "dep" = .allow := by decide
  exact ⟨rfl, hvalid, hallow, (hgroup ⟨"DeleteUser", .group⟩ (by decide) rfl _ _ _).mp hallow⟩

end AuthorizationSettings

end RealmAccess
