/-
RealmAccess.Proofs.Config.PrimaryRealm — the token `/` and the primary
realm.

A row on `/` is meant for every realm but the primary one, so taking all
such rows away should change nothing that is asked about the primary realm.
It does not, for any settings whose primary realm is not itself called `/`:
a row that reaches the primary realm is then not on `/`
(`not_onNonPrimary_of_reaches`), and a row that does not reach a target plays
no part in a decision on it.

A realm called `/` is the exception, since a target is read as a key like
everything stored. Settings may name it as the primary one, and then each
row on `/` names exactly the realm that it is meant to spare
(`nonPrimary_reaches_realm_of_that_name`). `primaryRealm_spared` puts the two
cases together.
-/
import RealmAccess.Config.Validation
import RealmAccess.Proofs.Config.StrictRules
import RealmAccess.Proofs.Matrix.Decision
import RealmAccess.Proofs.Ruling.Check
import RealmAccess.Proofs.Service.LastRead

namespace RealmAccess

/-! ## Rows on the token -/

namespace Rule

/-- The target realm of the row is the token `/`. -/
def onNonPrimary (rule : Rule) : Bool := rule.targetRealm = some nonPrimaryToken

/-- A row on `/` reaches the realms that are not primary, and one called `/`. -/
theorem reachesRealm_of_onNonPrimary {rule : Rule} (h : rule.onNonPrimary = true)
    {primaryRealm targetRealm : String} :
    rule.ReachesRealm primaryRealm targetRealm ↔
      targetRealm = nonPrimaryToken ∨ targetRealm ≠ primaryRealm := by
  have htarget : rule.targetRealm = some nonPrimaryToken := of_decide_eq_true h
  have hany : nonPrimaryToken ≠ anyToken := by decide
  constructor
  · rintro ⟨t, ht, hreach⟩
    rw [htarget, Option.some_inj] at ht
    subst ht
    rcases hreach with h | h | ⟨-, h⟩
    · exact absurd h hany
    · exact .inl h.symm
    · exact .inr h
  · rintro (h | h)
    · exact ⟨nonPrimaryToken, htarget, .inr (.inl h.symm)⟩
    · exact ⟨nonPrimaryToken, htarget, .inr (.inr ⟨rfl, h⟩)⟩

/-- No row on `/` reaches a primary realm of another name. -/
theorem not_onNonPrimary_of_reaches {rule : Rule} {primaryRealm : String}
    (hname : primaryRealm ≠ nonPrimaryToken) (h : rule.ReachesRealm primaryRealm primaryRealm) :
    (!rule.onNonPrimary) = true := by
  rw [Bool.not_eq_true', ← Bool.not_eq_true]
  intro hrow
  rcases (reachesRealm_of_onNonPrimary hrow).mp h with h | h
  · exact hname h
  · exact h rfl

end Rule

/-! ## Checks on one realm -/

/-- A check about one realm is ruled by what is permitted on that realm. -/
theorem Check.ruling_congr {p q : Policy} {targetRealm : String}
    (hrealm : ∀ realm groups action,
      p.matrix.permitsRealm p.primaryRealm realm groups action targetRealm =
        q.matrix.permitsRealm q.primaryRealm realm groups action targetRealm)
    (hgroup : ∀ realm groups action targetGroup,
      p.matrix.permitsGroup p.primaryRealm realm groups action targetRealm targetGroup =
        q.matrix.permitsGroup q.primaryRealm realm groups action targetRealm targetGroup)
    (b : Backend) {ctx : Context} {c : Check} (htarget : c.targetRealm? ctx = some targetRealm) :
    c.ruling p b ctx = c.ruling q b ctx := by
  have honGroup : ∀ action targetGroup,
      p.onGroup ctx action targetRealm targetGroup = q.onGroup ctx action targetRealm targetGroup := by
    intro action targetGroup
    simp only [Policy.onGroup, hgroup]
  have honAnyGroup : ∀ action, p.onAnyGroup ctx action targetRealm =
      q.onAnyGroup ctx action targetRealm := by
    intro action
    funext targetGroups
    simp only [Policy.onAnyGroup, hgroup]
  cases c with
  | onRealm action t =>
    obtain rfl : t = targetRealm := Option.some.inj htarget
    simp only [ruling, Policy.onRealm, hrealm]
  | onGroup action t targetGroup =>
    obtain rfl : t = targetRealm := Option.some.inj htarget
    exact honGroup action targetGroup
  | onGroupId action t groupId =>
    obtain rfl : t = targetRealm := Option.some.inj htarget
    simp only [ruling, Policy.onGroupId, honGroup]
  | onUser action t user =>
    obtain rfl : t = targetRealm := Option.some.inj htarget
    simp only [ruling, Policy.onUser, honAnyGroup]
  | onSelf action =>
    have hctx : ctx.realm = some targetRealm := htarget
    simp only [ruling, Policy.onSelf, Ruling.withRealm_eq, hctx, Option.elim_some, honAnyGroup]
  -- Checks by role do not look at the policy.
  | roleOnUser role t user => rfl
  | roleOnSelf role => rfl

/-! ## Settings without rows on the token -/

namespace AuthorizationSettings

/-- The settings without their rows on `/`. -/
def withoutNonPrimary (s : AuthorizationSettings) : AuthorizationSettings :=
  { s with rules := s.rules.filter (!·.onNonPrimary) }

/-- Settings that are accepted are accepted with fewer rows. -/
theorem validate_of_subset {s : AuthorizationSettings} {rules : List Rule}
    (hsubset : ∀ rule ∈ rules, rule ∈ s.rules) (hvalid : s.validate = .ok ()) :
    { s with rules }.validate = .ok () := by
  obtain ⟨hrealm, hinterval, hrules⟩ := validate_eq_ok.mp hvalid
  refine validate_eq_ok.mpr ⟨hrealm, hinterval, fun hstrict => ?_⟩
  obtain ⟨r, hr, hnone⟩ := validateRules_eq_ok.mp (hrules hstrict)
  exact validateRules_eq_ok.mpr ⟨r, hr, fun rule hrule => hnone rule (hsubset rule hrule)⟩

theorem validate_withoutNonPrimary {s : AuthorizationSettings} (hvalid : s.validate = .ok ()) :
    s.withoutNonPrimary.validate = .ok () :=
  validate_of_subset (fun _ hrule => (List.mem_filter.mp hrule).1) hvalid

/-! ## Main statements -/

/-- Settings whose primary realm is called `/`, with one row on that token. -/
def primarySlash : AuthorizationSettings where
  primaryRealm := "/"
  rules := [⟨"master", "toe", "GetUser", some "/", some "*"⟩]

/-- A row on `/` reaches a primary realm of that name: accepted settings allow by it what they
forbid without it. -/
theorem nonPrimary_reaches_realm_of_that_name :
    let p := (Service.ofSettings primarySlash {}).start.2.2.policy
    let q := (Service.ofSettings primarySlash.withoutNonPrimary {}).start.2.2.policy
    primarySlash.validate = .ok () ∧
      p.groupsOnRealm "master" ["toe"] "GetUser" primarySlash.primaryRealm = .allow ∧
      q.groupsOnRealm "master" ["toe"] "GetUser" primarySlash.primaryRealm = .deny .forbidden ∧
      p.groupsOnGroup "master" ["toe"] "GetUser" primarySlash.primaryRealm "grp" = .allow ∧
      q.groupsOnGroup "master" ["toe"] "GetUser" primarySlash.primaryRealm "grp" =
        .deny .forbidden :=
  ⟨rfl, by decide, by decide, by decide, by decide⟩

/-- **The token `/` spares the primary realm, unless that is its name.** Accepted settings stay
accepted without their rows on `/`, and a service made from either decides every check on the
primary realm alike, on the realm itself and on its groups and users. Only a primary realm called
`/` is not spared: there each row on `/` allows what it grants elsewhere. -/
theorem primaryRealm_spared (s : AuthorizationSettings) (directory : Directory)
    (hvalid : s.validate = .ok ()) :
    let p := (Service.ofSettings s directory).start.2.2.policy
    let q := (Service.ofSettings s.withoutNonPrimary directory).start.2.2.policy
    s.withoutNonPrimary.validate = .ok () ∧
    (s.primaryRealm ≠ "/" →
      (∀ realm groups action, p.groupsOnRealm realm groups action s.primaryRealm =
        q.groupsOnRealm realm groups action s.primaryRealm) ∧
      (∀ realm groups action targetGroup,
        p.groupsOnGroup realm groups action s.primaryRealm targetGroup =
          q.groupsOnGroup realm groups action s.primaryRealm targetGroup) ∧
      (∀ (c : Check) (b : Backend) (ctx : Context), c.targetRealm? ctx = some s.primaryRealm →
        c.ruling p b ctx = c.ruling q b ctx)) ∧
    (s.primaryRealm = "/" → ∀ rule ∈ s.rules, rule.targetRealm = some "/" →
      p.groupsOnRealm rule.userRealm [rule.userGroup] rule.action s.primaryRealm = .allow ∧
      ∀ targetGroup, rule.targetGroup = some targetGroup →
        p.groupsOnGroup rule.userRealm [rule.userGroup] rule.action s.primaryRealm targetGroup =
          .allow) := by
  intro p q
  have hp : p = ⟨Matrix.load s.rules, s.primaryRealm⟩ :=
    (Service.start_ofStores s.primaryRealm s.rules _ directory).2
  have hq : q = ⟨Matrix.load (s.rules.filter (!·.onNonPrimary)), s.primaryRealm⟩ :=
    (Service.start_ofStores s.primaryRealm (s.rules.filter (!·.onNonPrimary)) _ directory).2
  rw [hp, hq]
  refine ⟨validate_withoutNonPrimary hvalid, ?_, ?_⟩
  · intro hname
    have hkeep : ∀ rule ∈ s.rules, rule.ReachesRealm s.primaryRealm s.primaryRealm →
        (!rule.onNonPrimary) = true := fun rule _ => rule.not_onNonPrimary_of_reaches hname
    have hrealm := Matrix.permitsRealm_filter hkeep
    have hgroup := Matrix.permitsGroup_filter hkeep
    refine ⟨?_, ?_, ?_⟩
    · intro realm groups action
      rw [Policy.groupsOnRealm, Policy.groupsOnRealm, hrealm]
    · intro realm groups action targetGroup
      rw [Policy.groupsOnGroup, Policy.groupsOnGroup, hgroup]
    · intro c b ctx htarget
      exact Check.ruling_congr (fun realm groups action => (hrealm realm groups action).symm)
        (fun realm groups action targetGroup => (hgroup realm groups action targetGroup).symm)
        b htarget
  · intro hname rule hrule htarget
    -- The row names the primary realm outright, so it needs no token to reach it.
    have hacts : rule.ActsFor rule.userRealm [rule.userGroup] rule.action :=
      ⟨rfl, List.mem_singleton_self _, rfl⟩
    have hreach : rule.ReachesRealm s.primaryRealm s.primaryRealm :=
      (Rule.reachesRealm_of_onNonPrimary (decide_eq_true htarget)).mpr (.inl hname)
    constructor
    · rw [Policy.groupsOnRealm_eq_allow, Matrix.permitsRealm_load]
      exact ⟨rule, hrule, hacts, hreach⟩
    · intro targetGroup hgroup
      rw [Policy.groupsOnGroup_eq_allow, Matrix.permitsGroup_load]
      exact ⟨rule, hrule, hacts, hreach, targetGroup, hgroup, .inr rfl⟩

/-- Settings with a primary realm of the usual name, which one row on `/` spares. -/
def primaryMaster : AuthorizationSettings where
  rules := [⟨"master", "toe", "GetUser", some "/", some "*"⟩,
    ⟨"master", "toe", "GetRealm", some "master", none⟩]

theorem primaryMaster_spared :
    let p := (Service.ofSettings primaryMaster {}).start.2.2.policy
    let q := (Service.ofSettings primaryMaster.withoutNonPrimary {}).start.2.2.policy
    primaryMaster.validate = .ok () ∧ primaryMaster.primaryRealm ≠ "/" ∧
      q.groupsOnRealm "master" ["toe"] "GetUser" "dep" ≠
        p.groupsOnRealm "master" ["toe"] "GetUser" "dep" ∧
      p.groupsOnRealm "master" ["toe"] "GetUser" "master" =
        q.groupsOnRealm "master" ["toe"] "GetUser" "master" := by
  intro p q
  have hvalid : primaryMaster.validate = .ok () := by rfl
  have hname : primaryMaster.primaryRealm ≠ "/" := by decide
  obtain ⟨-, hspared, -⟩ := primaryRealm_spared primaryMaster {} hvalid
  exact ⟨hvalid, hname, by decide, (hspared hname).1 "master" ["toe"] "GetUser"⟩

end AuthorizationSettings

end RealmAccess
