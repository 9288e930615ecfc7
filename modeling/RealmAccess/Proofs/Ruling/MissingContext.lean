/-
RealmAccess.Proofs.Ruling.MissingContext — which checks complain about an
incomplete context, and when.

`Check.required` lists what a check reads of the context, in the order in
which it reads. A check that lacks one of these values names the first it
lacks (`verdict_of_lacks`), with one exception. A check on a group
identifier or on a user asks the identity provider before it reads realm and
groups, and the answer may settle it there and then: a failed request does,
and so does the empty name of a group that is not there. Such a check is
denied for that (`verdict_of_lookupDenial`), and what it would have read
later stays unread.

So the rule that an incomplete context is always reported as such is false
(`incomplete_context_goes_unreported`), and `incomplete_context_is_named`
says what holds of all checks.
-/
import RealmAccess.Directory
import RealmAccess.Proofs.Ruling.Check

namespace RealmAccess

/-- Whether a context lacks a value. -/
def Context.lacks (ctx : Context) : ContextValue → Bool
  | .accessToken => ctx.accessToken.isNone
  | .realm => ctx.realm.isNone
  | .groups => ctx.groups.isNone

namespace Check

/-- The values of the context that a check cannot do without, in the order in which it reads them. -/
def required : Check → List ContextValue
  | .onRealm .. | .onGroup .. | .onSelf .. => [.realm, .groups]
  | .onGroupId .. | .onUser .. => [.accessToken, .realm, .groups]
  | .roleOnUser .. => [.accessToken]
  | .roleOnSelf .. => [.realm]

/-- The denial that the identity provider's answer to a token brings upon a check before it reads
realm and groups, if it does. -/
def lookupDenial (c : Check) (b : Backend) (token : String) : Option Denial :=
  match c with
  | .onGroupId _ targetRealm groupId =>
    match b.groupName token targetRealm groupId with
    | .error e => some (.ofFailure (.identity e))
    | .ok name => if name = "" then some .forbidden else none
  | .onUser _ targetRealm user =>
    match b.groupNamesOfUser token targetRealm user with
    | .error e => some (.ofFailure (.identity e))
    | .ok _ => none
  | _ => none

end Check

/-! ## The first missing value -/

/-- The first missing value is the one read first, or it is missing from what is read after that. -/
theorem Context.find?_lacks {α : Type} {ctx : Context} {o : Option α} {name value : ContextValue}
    {more : List ContextValue} (hname : ctx.lacks name = o.isNone)
    (h : (name :: more).find? ctx.lacks = some value) :
    o = none ∧ value = name ∨ ∃ a, o = some a ∧ more.find? ctx.lacks = some value := by
  rw [List.find?_cons, hname] at h
  cases o with
  | none => exact .inl ⟨rfl, (Option.some.inj h).symm⟩
  | some a => exact .inr ⟨a, rfl, h⟩

open Ruling in
/-- A check that reads realm and groups and then decides names the first that is missing. -/
theorem Ruling.actor_of_lacks {ctx : Context} {value : ContextValue}
    (h : [.realm, .groups].find? ctx.lacks = some value)
    (rest : String → List String → Ruling) :
    (withRealm ctx fun realm => withGroups ctx fun groups => rest realm groups) = missing value := by
  obtain ⟨hrealm, rfl⟩ | ⟨realm, hrealm, h⟩ := Context.find?_lacks (o := ctx.realm) rfl h
  · rw [withRealm_eq, hrealm, Option.elim_none]
  · obtain ⟨hgroups, rfl⟩ | ⟨groups, hgroups, h⟩ := Context.find?_lacks (o := ctx.groups) rfl h
    · rw [withRealm_eq, hrealm, Option.elim_some, withGroups_eq, hgroups, Option.elim_none]
    · cases h

/-! ## Every check -/

namespace Check

open Ruling

variable {c : Check} {b : Backend} {ctx : Context}

/-- What the identity provider answers may settle a check, whatever else the context lacks. -/
theorem verdict_of_lookupDenial (p : Policy) {token : String} {d : Denial}
    (htoken : ctx.accessToken = some token) (h : c.lookupDenial b token = some d) :
    (c.ruling p b ctx).verdict = .deny d := by
  cases c with
  | onGroupId action targetRealm groupId =>
    rw [ruling, p.verdict_onGroupId b htoken]
    unfold lookupDenial at h
    cases hanswer : b.groupName token targetRealm groupId with
    | error e =>
      simp only [hanswer, Option.some_inj] at h
      simp only [h]
    | ok name =>
      by_cases hname : name = ""
      · simp only [hanswer, if_pos hname, Option.some_inj] at h
        simp only [if_pos hname, h]
      · simp only [hanswer, if_neg hname, reduceCtorEq] at h
  | onUser action targetRealm user =>
    rw [ruling, p.verdict_onUser b htoken]
    unfold lookupDenial at h
    cases hanswer : b.groupNamesOfUser token targetRealm user with
    | error e =>
      simp only [hanswer, Option.some_inj] at h
      simp only [h]
    | ok groups => simp only [hanswer, reduceCtorEq] at h
  | _ => cases h

theorem lookupDenial_onGroupId_eq_none {token action targetRealm groupId : String} :
    (onGroupId action targetRealm groupId).lookupDenial b token = none ↔
      ∃ name, b.groupName token targetRealm groupId = .ok name ∧ name ≠ "" := by
  cases hanswer : b.groupName token targetRealm groupId <;> simp [lookupDenial, hanswer]

theorem lookupDenial_onUser_eq_none {token action targetRealm user : String} :
    (onUser action targetRealm user).lookupDenial b token = none ↔
      ∃ groups, b.groupNamesOfUser token targetRealm user = .ok groups := by
  cases hanswer : b.groupNamesOfUser token targetRealm user <;> simp [lookupDenial, hanswer]

/-- A check that no answer settles names the first value it lacks. -/
theorem verdict_of_lacks (p : Policy) {value : ContextValue}
    (hlookup : ∀ token, ctx.accessToken = some token → c.lookupDenial b token = none)
    (h : c.required.find? ctx.lacks = some value) :
    (c.ruling p b ctx).verdict = .deny (.missingContext value) := by
  -- Each case follows the order in which the check reads: token, lookup, realm and groups.
  cases c with
  | onRealm action targetRealm => exact congrArg verdict (actor_of_lacks h _)
  | onGroup action targetRealm targetGroup => exact congrArg verdict (actor_of_lacks h _)
  | onSelf action => exact congrArg verdict (actor_of_lacks h _)
  | onGroupId action targetRealm groupId =>
    obtain ⟨htoken, rfl⟩ | ⟨token, htoken, h⟩ := Context.find?_lacks (o := ctx.accessToken) rfl h
    · rw [ruling, Policy.onGroupId, withToken_eq, htoken]
      rfl
    · obtain ⟨name, hanswer, hname⟩ := lookupDenial_onGroupId_eq_none.mp (hlookup token htoken)
      rw [ruling, p.verdict_onGroupId b htoken, hanswer]
      simp only [if_neg hname]
      exact congrArg verdict (actor_of_lacks h _)
  | onUser action targetRealm user =>
    obtain ⟨htoken, rfl⟩ | ⟨token, htoken, h⟩ := Context.find?_lacks (o := ctx.accessToken) rfl h
    · rw [ruling, Policy.onUser, withToken_eq, htoken]
      rfl
    · obtain ⟨groups, hanswer⟩ := lookupDenial_onUser_eq_none.mp (hlookup token htoken)
      rw [ruling, p.verdict_onUser b htoken, hanswer]
      exact congrArg verdict (actor_of_lacks h _)
  | roleOnUser role targetRealm user =>
    obtain ⟨htoken, rfl⟩ | ⟨token, -, h⟩ := Context.find?_lacks (o := ctx.accessToken) rfl h
    · rw [ruling, RoleAction.onUser, withToken_eq, htoken]
      rfl
    · cases h
  | roleOnSelf role =>
    obtain ⟨hrealm, rfl⟩ | ⟨realm, -, h⟩ := Context.find?_lacks (o := ctx.realm) rfl h
    · rw [ruling, RoleAction.onSelf, withRealm_eq, hrealm]
      rfl
    · cases h

/-! ## Main statements -/

/-- An incomplete context is not always reported: an identifier without a group is refused before
the realm is missed. -/
theorem incomplete_context_goes_unreported :
    ¬ ∀ (c : Check) (p : Policy) (b : Backend) (ctx : Context),
      (∃ value ∈ c.required, ctx.lacks value = true) →
        ∃ value ∈ c.required, ctx.lacks value = true ∧
          (c.ruling p b ctx).verdict = .deny (.missingContext value) := by
  intro h
  obtain ⟨value, -, -, hverdict⟩ := h (.onGroupId "GetUser" "dep" "g-1") ⟨∅, "master"⟩
    (.ofMemory {} {}) { accessToken := some "TOKEN", groups := some ["toe"] }
    ⟨.realm, by decide, rfl⟩
  have hforbidden : ((onGroupId "GetUser" "dep" "g-1").ruling ⟨∅, "master"⟩ (.ofMemory {} {})
      { accessToken := some "TOKEN", groups := some ["toe"] }).verdict = .deny .forbidden := by
    decide
  rw [hforbidden] at hverdict
  cases hverdict

/-- **An incomplete context is named, unless a lookup settles the check before.** A check without a
value that it cannot do without is denied for want of such a value, whatever the policy, what is
asked about and the services' answers. Only a check on a group identifier or on a user, with a
token, may be denied otherwise, and then for what its lookup came to: a failed request, or a group
without a name. -/
theorem incomplete_context_is_named (c : Check) (p : Policy) (b : Backend) (ctx : Context)
    (hlacks : ∃ value ∈ c.required, ctx.lacks value = true) :
    (∀ token d, ctx.accessToken = some token → c.lookupDenial b token = some d →
      (c.ruling p b ctx).verdict = .deny d) ∧
    ((∀ token, ctx.accessToken = some token → c.lookupDenial b token = none) →
      ∃ value ∈ c.required, ctx.lacks value = true ∧
        (c.ruling p b ctx).verdict = .deny (.missingContext value)) := by
  constructor
  · intro token d htoken hlookup
    exact verdict_of_lookupDenial p htoken hlookup
  · intro hlookup
    obtain ⟨value, hfirst⟩ := Option.isSome_iff_exists.mp (List.find?_isSome.mpr hlacks)
    exact ⟨value, List.mem_of_find?_eq_some hfirst, List.find?_some hfirst,
      verdict_of_lacks p hlookup hfirst⟩

/-- Without a realm a check on a user complains about the context if the provider answers, even with
no groups, and is forbidden if it cannot be reached. -/
theorem user_check_without_realm :
    let ctx : Context := { accessToken := some "TOKEN", groups := some ["toe"] }
    let c : Check := .onUser "GetUser" "dep" "u-1"
    (∃ value ∈ c.required, ctx.lacks value = true) ∧
      (∃ value ∈ c.required, ctx.lacks value = true ∧
        (c.ruling ⟨∅, "master"⟩ (.ofMemory {} {}) ctx).verdict = .deny (.missingContext value)) ∧
      (c.ruling ⟨∅, "master"⟩ (.ofMemory { outage := some (.transport "reset") } {}) ctx).verdict =
        .deny .forbidden := by
  intro ctx c
  have hlacks : ∃ value ∈ c.required, ctx.lacks value = true := ⟨.realm, by decide, rfl⟩
  obtain ⟨-, hnamed⟩ := incomplete_context_is_named c ⟨∅, "master"⟩ (.ofMemory {} {}) ctx hlacks
  obtain ⟨hdenied, -⟩ := incomplete_context_is_named c ⟨∅, "master"⟩
    (.ofMemory { outage := some (.transport "reset") } {}) ctx hlacks
  refine ⟨hlacks, hnamed ?_, hdenied "TOKEN" .forbidden rfl (by decide)⟩
  intro token htoken
  rfl

end Check

end RealmAccess
