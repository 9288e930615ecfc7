/-
RealmAccess.Proofs.Matrix.Decision — a decision is a matter of single rows.

The matrix answers through four tables, three realm keys and two group
keys. Put back into rows, all of it comes down to one question: is there a
row of the actor's realm, of one of the actor's groups and of the action,
whose own targets reach the target? `permitsGroup_load` says so for target
groups and `permitsRealm_load` for target realms.

The target asked for is read as a key like the stored ones, so it may be
spelled like a token. Reading is injective, hence a stored name reaches
exactly the target of that spelling, and only `*` and `/` reach further;
`/` does so as a realm alone. As a group it is a name like any other.
-/
import RealmAccess.Proofs.Matrix.Load
import RealmAccess.Ruling.Policy

namespace RealmAccess

/-! ## What a row reaches -/

namespace Rule

/-- The row is about an action of the members of one of some groups of a realm. -/
def ActsFor (rule : Rule) (realm : String) (groups : List String) (action : String) : Prop :=
  rule.userRealm = realm ∧ rule.userGroup ∈ groups ∧ rule.action = action

theorem actsFor_iff {rule : Rule} {realm : String} {groups : List String} {action : String} :
    rule.ActsFor realm groups action ↔ ∃ group ∈ groups, rule.Names realm group action := by
  constructor
  · rintro ⟨hrealm, hgroup, haction⟩
    exact ⟨rule.userGroup, hgroup, hrealm, rfl, haction⟩
  · rintro ⟨group, hgroup, hrealm, rfl, haction⟩
    exact ⟨hrealm, hgroup, haction⟩

/-- The target realm of the row is the one asked for, or a token that covers it. -/
def ReachesRealm (rule : Rule) (primaryRealm targetRealm : String) : Prop :=
  ∃ t, rule.targetRealm = some t ∧
    (t = anyToken ∨ t = targetRealm ∨ t = nonPrimaryToken ∧ targetRealm ≠ primaryRealm)

/-- The row reaches the target realm, and its own target group is the one asked for or `*`. -/
def ReachesGroup (rule : Rule) (primaryRealm targetRealm targetGroup : String) : Prop :=
  rule.ReachesRealm primaryRealm targetRealm ∧
    ∃ g, rule.targetGroup = some g ∧ (g = anyToken ∨ g = targetGroup)

end Rule

/-! ## Keys that reach a target -/

namespace Key

/-- The key of a target realm reaches a target realm. -/
def ReachesRealm (primaryRealm targetRealm : String) (k : Key) : Prop :=
  k = .wildcard ∨ k = parse targetRealm ∨ k = .nonPrimary ∧ targetRealm ≠ primaryRealm

/-- The key of a target group reaches a target group. -/
def ReachesGroup (targetGroup : String) (g : Key) : Prop :=
  g = .wildcard ∨ g = parse targetGroup

theorem reachesRealm_parse {primaryRealm targetRealm t : String} :
    (parse t).ReachesRealm primaryRealm targetRealm ↔
      t = anyToken ∨ t = targetRealm ∨ t = nonPrimaryToken ∧ targetRealm ≠ primaryRealm := by
  rw [ReachesRealm, parse_eq_wildcard, parse_inj, parse_eq_nonPrimary]

theorem reachesGroup_parse {targetGroup g : String} :
    (parse g).ReachesGroup targetGroup ↔ g = anyToken ∨ g = targetGroup := by
  rw [ReachesGroup, parse_eq_wildcard, parse_inj]

end Key

/-! ## Grants that reach a target -/

namespace Grants

/-- Grants reach a target group if they hold a key that does under one that reaches its realm. -/
theorem any_reachGroup (grants : Option Grants) (primaryRealm targetRealm targetGroup : String) :
    grants.any (·.reachGroup primaryRealm targetRealm targetGroup) = true ↔
      ∃ k g, Key.ReachesRealm primaryRealm targetRealm k ∧ Key.ReachesGroup targetGroup g ∧
        grants.any (·.holds k g) = true := by
  cases grants with
  | none => simp
  | some grants =>
    have hgroup : ∀ k, grants.realmHoldsGroup k (Key.parse targetGroup) = true ↔
        ∃ g, Key.ReachesGroup targetGroup g ∧ grants.holds k g = true := by
      intro k
      simp only [realmHoldsGroup, holds, Key.ReachesGroup]
      cases grants.find? k <;> simp
    simp only [reachGroup, Option.any_some, Bool.or_eq_true, Bool.and_eq_true, bne_iff_ne, hgroup]
    constructor
    · rintro ((⟨g, hg, h⟩ | ⟨hne, g, hg, h⟩) | ⟨g, hg, h⟩)
      · exact ⟨.wildcard, g, .inl rfl, hg, h⟩
      · exact ⟨.nonPrimary, g, .inr (.inr ⟨rfl, hne⟩), hg, h⟩
      · exact ⟨Key.parse targetRealm, g, .inr (.inl rfl), hg, h⟩
    · rintro ⟨k, g, rfl | rfl | ⟨rfl, hne⟩, hg, h⟩
      · exact .inl (.inl ⟨g, hg, h⟩)
      · exact .inr ⟨g, hg, h⟩
      · exact .inl (.inr ⟨hne, g, hg, h⟩)

/-- Grants reach a target realm if they contain a key that does. -/
theorem any_reachRealm (grants : Option Grants) (primaryRealm targetRealm : String) :
    grants.any (·.reachRealm primaryRealm targetRealm) = true ↔
      ∃ k, Key.ReachesRealm primaryRealm targetRealm k ∧ grants.any (·.contains k) = true := by
  cases grants with
  | none => simp
  | some grants =>
    simp only [reachRealm, Option.any_some, Bool.or_eq_true, Bool.and_eq_true, bne_iff_ne]
    constructor
    · rintro ((h | h) | ⟨hne, h⟩)
      · exact ⟨.wildcard, .inl rfl, h⟩
      · exact ⟨Key.parse targetRealm, .inr (.inl rfl), h⟩
      · exact ⟨.nonPrimary, .inr (.inr ⟨rfl, hne⟩), h⟩
    · rintro ⟨k, rfl | rfl | ⟨rfl, hne⟩, h⟩
      · exact .inl (.inl h)
      · exact .inl (.inr h)
      · exact .inr ⟨hne, h⟩

end Grants

/-! ## Loaded rows -/

namespace Rule

theorem reachesRealm_iff {rule : Rule} {primaryRealm targetRealm : String} :
    rule.ReachesRealm primaryRealm targetRealm ↔
      ∃ k, Key.ReachesRealm primaryRealm targetRealm k ∧
        rule.targetRealm.map Key.parse = some k := by
  simp only [ReachesRealm, ← Key.reachesRealm_parse, Option.map_eq_some_iff]
  constructor
  · rintro ⟨t, ht, h⟩
    exact ⟨Key.parse t, h, t, ht, rfl⟩
  · rintro ⟨k, h, t, ht, rfl⟩
    exact ⟨t, ht, h⟩

theorem reachesGroup_iff {rule : Rule} {primaryRealm targetRealm targetGroup : String} :
    rule.ReachesGroup primaryRealm targetRealm targetGroup ↔
      ∃ k g, Key.ReachesRealm primaryRealm targetRealm k ∧ Key.ReachesGroup targetGroup g ∧
        rule.targetRealm.map Key.parse = some k ∧ rule.targetGroup.map Key.parse = some g := by
  simp only [ReachesGroup, reachesRealm_iff, ← Key.reachesGroup_parse, Option.map_eq_some_iff]
  constructor
  · rintro ⟨⟨k, hk, hrealm⟩, g, hgroup, hg⟩
    exact ⟨k, Key.parse g, hk, hg, hrealm, g, hgroup, rfl⟩
  · rintro ⟨k, _, hk, hg, hrealm, g, hgroup, rfl⟩
    exact ⟨⟨k, hk, hrealm⟩, g, hgroup, hg⟩

end Rule

namespace Matrix

/-- Whether a target realm is permitted is decided by single rows. -/
theorem permitsRealm_load (rules : List Rule) (primaryRealm realm : String) (groups : List String)
    (action targetRealm : String) :
    (load rules).permitsRealm primaryRealm realm groups action targetRealm = true ↔
      ∃ rule ∈ rules, rule.ActsFor realm groups action ∧
        rule.ReachesRealm primaryRealm targetRealm := by
  simp only [permitsRealm, List.any_eq_true, Grants.any_reachRealm, contains_load,
    Rule.actsFor_iff, Rule.reachesRealm_iff]
  constructor
  · rintro ⟨group, hgroup, k, hk, rule, hrule, hnames, hrealm⟩
    exact ⟨rule, hrule, ⟨group, hgroup, hnames⟩, k, hk, hrealm⟩
  · rintro ⟨rule, hrule, ⟨group, hgroup, hnames⟩, k, hk, hrealm⟩
    exact ⟨group, hgroup, k, hk, rule, hrule, hnames, hrealm⟩

/-- Whether a target group is permitted is decided by single rows. -/
theorem permitsGroup_load (rules : List Rule) (primaryRealm realm : String) (groups : List String)
    (action targetRealm targetGroup : String) :
    (load rules).permitsGroup primaryRealm realm groups action targetRealm targetGroup = true ↔
      ∃ rule ∈ rules, rule.ActsFor realm groups action ∧
        rule.ReachesGroup primaryRealm targetRealm targetGroup := by
  simp only [permitsGroup, List.any_eq_true, Grants.any_reachGroup, holds_load,
    Rule.actsFor_iff, Rule.reachesGroup_iff]
  constructor
  · rintro ⟨group, hgroup, k, g, hk, hg, rule, hrule, hnames, htargets⟩
    exact ⟨rule, hrule, ⟨group, hgroup, hnames⟩, k, g, hk, hg, htargets⟩
  · rintro ⟨rule, hrule, ⟨group, hgroup, hnames⟩, k, g, hk, hg, htargets⟩
    exact ⟨group, hgroup, k, g, hk, hg, rule, hrule, hnames, htargets⟩

/-! ## Rows that may be left out -/

theorem exists_mem_filter {rules : List Rule} {keep : Rule → Bool} {q : Rule → Prop}
    (hkeep : ∀ rule ∈ rules, q rule → keep rule = true) :
    (∃ rule ∈ rules.filter keep, q rule) ↔ ∃ rule ∈ rules, q rule := by
  constructor
  · rintro ⟨rule, hrule, hq⟩
    exact ⟨rule, (List.mem_filter.mp hrule).1, hq⟩
  · rintro ⟨rule, hrule, hq⟩
    exact ⟨rule, List.mem_filter.mpr ⟨hrule, hkeep rule hrule hq⟩, hq⟩

section

variable {rules : List Rule} {keep : Rule → Bool} {primaryRealm targetRealm : String}

/-- Rows that do not reach a target realm play no part where it is asked for. -/
theorem permitsRealm_filter
    (hkeep : ∀ rule ∈ rules, rule.ReachesRealm primaryRealm targetRealm → keep rule = true)
    (realm : String) (groups : List String) (action : String) :
    (load (rules.filter keep)).permitsRealm primaryRealm realm groups action targetRealm =
      (load rules).permitsRealm primaryRealm realm groups action targetRealm := by
  rw [Bool.eq_iff_iff, permitsRealm_load, permitsRealm_load]
  exact exists_mem_filter fun rule hrule hrow => hkeep rule hrule hrow.2

/-- Nor do they where one of its groups is asked for. -/
theorem permitsGroup_filter
    (hkeep : ∀ rule ∈ rules, rule.ReachesRealm primaryRealm targetRealm → keep rule = true)
    (realm : String) (groups : List String) (action targetGroup : String) :
    (load (rules.filter keep)).permitsGroup primaryRealm realm groups action targetRealm
        targetGroup =
      (load rules).permitsGroup primaryRealm realm groups action targetRealm targetGroup := by
  rw [Bool.eq_iff_iff, permitsGroup_load, permitsGroup_load]
  exact exists_mem_filter fun rule hrule hrow => hkeep rule hrule hrow.2.1

end

end Matrix

/-! ## Verdicts -/

namespace Policy

theorem groupsOnRealm_eq_allow {p : Policy} {realm : String} {groups : List String}
    {action targetRealm : String} :
    p.groupsOnRealm realm groups action targetRealm = .allow ↔
      p.matrix.permitsRealm p.primaryRealm realm groups action targetRealm = true :=
  Verdict.ite_eq_allow

theorem groupsOnGroup_eq_allow {p : Policy} {realm : String} {groups : List String}
    {action targetRealm targetGroup : String} :
    p.groupsOnGroup realm groups action targetRealm targetGroup = .allow ↔
      p.matrix.permitsGroup p.primaryRealm realm groups action targetRealm targetGroup = true :=
  Verdict.ite_eq_allow

/-- What is not allowed on a realm is forbidden, and for no other cause. -/
theorem groupsOnRealm_eq_deny {p : Policy} {realm : String} {groups : List String}
    {action targetRealm : String} :
    p.groupsOnRealm realm groups action targetRealm = .deny .forbidden ↔
      p.groupsOnRealm realm groups action targetRealm ≠ .allow := by
  rw [Ne, groupsOnRealm_eq_allow]
  exact Verdict.ite_eq_deny

/-- What is not allowed on a group is forbidden, and for no other cause. -/
theorem groupsOnGroup_eq_deny {p : Policy} {realm : String} {groups : List String}
    {action targetRealm targetGroup : String} :
    p.groupsOnGroup realm groups action targetRealm targetGroup = .deny .forbidden ↔
      p.groupsOnGroup realm groups action targetRealm targetGroup ≠ .allow := by
  rw [Ne, groupsOnGroup_eq_allow]
  exact Verdict.ite_eq_deny

/-- **A target group is allowed by one row or by none.** The row is the actor's, and it reaches
realm and group by itself; without such a row the target group is forbidden. -/
theorem groupsOnGroup_load (rules : List Rule) (primaryRealm realm : String) (groups : List String)
    (action targetRealm targetGroup : String) :
    let p : Policy := ⟨Matrix.load rules, primaryRealm⟩
    let allowed := ∃ rule ∈ rules,
      rule.userRealm = realm ∧ rule.userGroup ∈ groups ∧ rule.action = action ∧
        ∃ t g, rule.targetRealm = some t ∧ rule.targetGroup = some g ∧
          (t = "*" ∨ t = targetRealm ∨ t = "/" ∧ targetRealm ≠ primaryRealm) ∧
          (g = "*" ∨ g = targetGroup)
    (p.groupsOnGroup realm groups action targetRealm targetGroup = .allow ↔ allowed) ∧
      (p.groupsOnGroup realm groups action targetRealm targetGroup = .deny .forbidden ↔
        ¬ allowed) := by
  intro p allowed
  have hallow : p.groupsOnGroup realm groups action targetRealm targetGroup = .allow ↔ allowed := by
    rw [groupsOnGroup_eq_allow, Matrix.permitsGroup_load]
    constructor
    · rintro ⟨rule, hrule, ⟨hrealm, hgroup, haction⟩, ⟨t, ht, hreach⟩, g, hg, hgreach⟩
      exact ⟨rule, hrule, hrealm, hgroup, haction, t, g, ht, hg, hreach, hgreach⟩
    · rintro ⟨rule, hrule, hrealm, hgroup, haction, t, g, ht, hg, hreach, hgreach⟩
      exact ⟨rule, hrule, ⟨hrealm, hgroup, haction⟩, ⟨t, ht, hreach⟩, g, hg, hgreach⟩
  exact ⟨hallow, groupsOnGroup_eq_deny.trans (not_congr hallow)⟩

/-- Two rows are not combined, and `/` names a group like any other. -/
example :
    let p : Policy := ⟨Matrix.load
      [⟨"r", "g", "a", some "dep", some "x"⟩, ⟨"r", "g", "a", some "*", some "/"⟩], "master"⟩
    p.groupsOnGroup "r" ["g"] "a" "other" "x" = .deny .forbidden ∧
      p.groupsOnGroup "r" ["g"] "a" "other" "/" = .allow ∧
      p.groupsOnGroup "r" ["g"] "a" "other" "y" = .deny .forbidden := by
  decide

/-- **A target realm is allowed by one row or by none.** The row is the actor's and its target realm
reaches the one asked for. Its target group plays no part, and neither does a row without a target
realm; without such a row the target realm is forbidden. -/
theorem groupsOnRealm_load (rules : List Rule) (primaryRealm realm : String) (groups : List String)
    (action targetRealm : String) :
    let p : Policy := ⟨Matrix.load rules, primaryRealm⟩
    let allowed := ∃ rule ∈ rules,
      rule.userRealm = realm ∧ rule.userGroup ∈ groups ∧ rule.action = action ∧
        ∃ t, rule.targetRealm = some t ∧
          (t = "*" ∨ t = targetRealm ∨ t = "/" ∧ targetRealm ≠ primaryRealm)
    (p.groupsOnRealm realm groups action targetRealm = .allow ↔ allowed) ∧
      (p.groupsOnRealm realm groups action targetRealm = .deny .forbidden ↔ ¬ allowed) := by
  intro p allowed
  have hallow : p.groupsOnRealm realm groups action targetRealm = .allow ↔ allowed := by
    rw [groupsOnRealm_eq_allow, Matrix.permitsRealm_load]
    constructor
    · rintro ⟨rule, hrule, ⟨hrealm, hgroup, haction⟩, t, ht, hreach⟩
      exact ⟨rule, hrule, hrealm, hgroup, haction, t, ht, hreach⟩
    · rintro ⟨rule, hrule, hrealm, hgroup, haction, t, ht, hreach⟩
      exact ⟨rule, hrule, ⟨hrealm, hgroup, haction⟩, t, ht, hreach⟩
  exact ⟨hallow, groupsOnRealm_eq_deny.trans (not_congr hallow)⟩

/-- A row with a target realm grants it with a target group or without, and a row without one
grants nothing. -/
example :
    let p : Policy := ⟨Matrix.load
      [⟨"r", "g", "a", some "/", none⟩, ⟨"r", "g", "b", none, some "*"⟩], "master"⟩
    p.groupsOnRealm "r" ["g"] "a" "dep" = .allow ∧
      p.groupsOnRealm "r" ["g"] "a" "master" = .deny .forbidden ∧
      p.groupsOnRealm "r" ["g"] "b" "dep" = .deny .forbidden := by
  decide

end Policy

end RealmAccess
