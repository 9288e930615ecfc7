/-
RealmAccess.Proofs.Ruling.FailClosed — a failed request closes a check and
leaves no trace in its verdict.

A check may ask up to two services, and any of them may fail in any way.
`Backend.failure?` says how a backend fails a request, and `FailsClosed` is
what the requests of a ruling have to do with its verdict: one that failed
settles the verdict, and nothing else makes it an upstream refusal. Each
combinator keeps that, whatever the rest of the check is, so it holds of
every check by following its steps (`failsClosed_ruling`).

`failures_are_hidden` reads it the caller's way. Only refused credentials
are handed on, as they are; every other failure comes out as the one
denial, so that two such failures cannot be told apart.
-/
import RealmAccess.Directory
import RealmAccess.Proofs.Ruling.Check

namespace RealmAccess

/-! ## Failures and denials -/

/-- The identity provider answered that it refuses the actor's credentials. -/
def Failure.RefusesCredentials (failure : Failure) : Prop :=
  ∃ detail, failure = .identity (.http 401 detail)

theorem Failure.status?_eq_unauthorized {failure : Failure} :
    failure.status? = some Http.unauthorized ↔ failure.RefusesCredentials := by
  unfold RefusesCredentials
  cases failure with
  | store failure => simp [status?]
  | identity failure => cases failure <;> simp [status?, Http.unauthorized]

namespace Denial

variable {failure : Failure}

theorem ofFailure_of_refuses (h : failure.RefusesCredentials) :
    ofFailure failure = .unauthorized failure :=
  if_pos (Failure.status?_eq_unauthorized.mpr h)

theorem ofFailure_of_not_refuses (h : ¬ failure.RefusesCredentials) :
    ofFailure failure = .forbidden :=
  if_neg (mt Failure.status?_eq_unauthorized.mp h)

/-- The only failure that is handed on is itself, and refuses the credentials. -/
theorem ofFailure_eq_unauthorized {other : Failure} (h : ofFailure failure = .unauthorized other) :
    failure = other ∧ other.RefusesCredentials := by
  by_cases hrefuses : failure.RefusesCredentials
  · rw [ofFailure_of_refuses hrefuses, unauthorized.injEq] at h
    exact ⟨h, h ▸ hrefuses⟩
  · rw [ofFailure_of_not_refuses hrefuses] at h
    cases h

end Denial

/-! ## Failed requests -/

/-- The failure that an answer is, if it is one. -/
def failureOf {ε α : Type} (asFailure : ε → Failure) : Except ε α → Option Failure
  | .error e => some (asFailure e)
  | .ok _ => none

/-- How a backend fails a request, if it does. The rows are not asked of a backend. -/
def Backend.failure? (b : Backend) : Call → Option Failure
  | .authorizations => none
  | .adminConfiguration realm => failureOf .store (b.adminConfiguration realm)
  | .groupNamesOfUser token realm user => failureOf .identity (b.groupNamesOfUser token realm user)
  | .groupName token realm group => failureOf .identity (b.groupName token realm group)
  | .roleNamesOfUser token realm user => failureOf .identity (b.roleNamesOfUser token realm user)

/-- What the requests of a ruling have to do with its verdict, over the backend they were made to. -/
structure Ruling.FailsClosed (b : Backend) (r : Ruling) : Prop where
  /-- A failed request settles the verdict. -/
  denied : ∀ call ∈ r.calls, ∀ e, b.failure? call = some e → r.verdict = .deny (.ofFailure e)
  /-- A refusal that is handed on is that of one of the requests. -/
  source : ∀ e, r.verdict = .deny (.unauthorized e) →
    e.RefusesCredentials ∧ ∃ call ∈ r.calls, b.failure? call = some e

/-! ## One step of a check -/

namespace Ruling.FailsClosed

variable {b : Backend} {ctx : Context}

theorem missing (value : ContextValue) : FailsClosed b (.missing value) :=
  ⟨by simp [Ruling.missing], by simp [Ruling.missing]⟩

theorem refuse (message : String) (fields : List (String × EventValue)) :
    FailsClosed b (.refuse ctx message fields) :=
  ⟨by simp [Ruling.refuse], by simp [Ruling.refuse]⟩

theorem allowIf (allowed : Bool) (message : String) (fields : List (String × EventValue)) :
    FailsClosed b (.allowIf allowed ctx message fields) := by
  cases allowed with
  | false => exact refuse message fields
  | true => exact ⟨by simp [Ruling.allowIf, allow], by simp [Ruling.allowIf, allow]⟩

theorem elim {α : Type} {o : Option α} {value : ContextValue} {rest : α → Ruling}
    (h : ∀ a, FailsClosed b (rest a)) : FailsClosed b (o.elim (.missing value) rest) := by
  cases o with
  | none => exact missing value
  | some a => exact h a

theorem withToken {rest : String → Ruling} (h : ∀ token, FailsClosed b (rest token)) :
    FailsClosed b (.withToken ctx rest) := by
  rw [withToken_eq]
  exact elim h

theorem withRealm {rest : String → Ruling} (h : ∀ realm, FailsClosed b (rest realm)) :
    FailsClosed b (.withRealm ctx rest) := by
  rw [withRealm_eq]
  exact elim h

theorem withGroups {rest : List String → Ruling} (h : ∀ groups, FailsClosed b (rest groups)) :
    FailsClosed b (.withGroups ctx rest) := by
  rw [withGroups_eq]
  exact elim h

/-- A request ends the check with its failure, or leaves the verdict to what follows. -/
theorem withAnswer {ε α : Type} {call : Call} {asFailure : ε → Failure} {answer : Except ε α}
    {rest : α → Ruling} (hcall : b.failure? call = failureOf asFailure answer)
    (h : ∀ a, FailsClosed b (rest a)) : FailsClosed b (.withAnswer call asFailure answer rest) := by
  cases answer with
  | error e =>
    -- The check ends here, so this request is the last one and its failure the verdict.
    have hfailure : b.failure? call = some (asFailure e) := hcall
    constructor
    · intro call' hcall' e' he'
      obtain rfl : call' = call := List.mem_singleton.mp hcall'
      rw [hfailure, Option.some_inj] at he'
      rw [← he']
      rfl
    · intro e' hverdict
      obtain ⟨rfl, hrefuses⟩ := Denial.ofFailure_eq_unauthorized (Verdict.deny.inj hverdict)
      exact ⟨hrefuses, call, List.mem_singleton_self call, hfailure⟩
  | ok a =>
    -- An answered request accounts for nothing: whatever failed did so in the rest.
    have hanswered : b.failure? call = none := hcall
    constructor
    · intro call' hcall' e' he'
      rcases List.mem_cons.mp hcall' with rfl | hrest
      · rw [hanswered] at he'
        cases he'
      · exact (h a).denied call' hrest e' he'
    · intro e' hverdict
      obtain ⟨hrefuses, call', hrest, he'⟩ := (h a).source e' hverdict
      exact ⟨hrefuses, call', List.mem_cons_of_mem call hrest, he'⟩

end Ruling.FailsClosed

/-! ## Every check -/

section

open Ruling.FailsClosed

variable (b : Backend) (ctx : Context)

theorem Policy.failsClosed_onGroup (p : Policy) (action targetRealm targetGroup : String) :
    (p.onGroup ctx action targetRealm targetGroup).FailsClosed b :=
  withRealm fun _ => withGroups fun _ => allowIf _ _ _

theorem Policy.failsClosed_onAnyGroup (p : Policy) (action targetRealm : String)
    (targetGroups : List String) :
    (p.onAnyGroup ctx action targetRealm targetGroups).FailsClosed b :=
  withRealm fun _ => withGroups fun _ => allowIf _ _ _

theorem Check.failsClosed_ruling (c : Check) (p : Policy) : (c.ruling p b ctx).FailsClosed b := by
  cases c with
  | onRealm action targetRealm => exact withRealm fun _ => withGroups fun _ => allowIf _ _ _
  | onGroup action targetRealm targetGroup =>
    exact p.failsClosed_onGroup b ctx action targetRealm targetGroup
  | onGroupId action targetRealm groupId =>
    refine withToken fun token => withAnswer rfl fun name => ?_
    by_cases hname : name = ""
    · rw [if_pos hname]
      exact refuse _ _
    · rw [if_neg hname]
      exact p.failsClosed_onGroup b ctx action targetRealm name
  | onUser action targetRealm user =>
    exact withToken fun token => withAnswer rfl (p.failsClosed_onAnyGroup b ctx action targetRealm)
  | onSelf action =>
    exact withRealm fun realm => withGroups fun groups =>
      p.failsClosed_onAnyGroup b ctx action realm groups
  | roleOnUser role targetRealm user =>
    exact withToken fun token => withAnswer rfl fun c => withAnswer rfl fun roles => allowIf _ _ _
  | roleOnSelf role => exact withRealm fun realm => withAnswer rfl fun c => allowIf _ _ _

end

/-! ## Main statement -/

namespace Check

/-- **Failures close a check and stay hidden.** If a request that a check made failed, the verdict is
that failure where it refuses the credentials, and otherwise the denial with its fixed message;
neither is an allowance or a complaint about the context. A failure is handed on only if a request
of that very check failed with it. Hence two runs in which one request fails, with whatever other
failures, have one verdict. -/
theorem failures_are_hidden (c : Check) (p : Policy) (b : Backend) (ctx : Context) :
    let r := c.ruling p b ctx
    (∀ call ∈ r.calls, ∀ e, b.failure? call = some e →
      (e.RefusesCredentials → r.verdict = .deny (.unauthorized e)) ∧
      (¬ e.RefusesCredentials → r.verdict = .deny .forbidden) ∧
      r.verdict ≠ .allow ∧ ∀ value, r.verdict ≠ .deny (.missingContext value)) ∧
    Denial.forbidden.message = "ForbiddenError: Operation not permitted." ∧
    (∀ e, r.verdict = .deny (.unauthorized e) →
      e.RefusesCredentials ∧ ∃ call ∈ r.calls, b.failure? call = some e) ∧
    ∀ (p' : Policy) (b' : Backend), let r' := c.ruling p' b' ctx
      ∀ call ∈ r.calls, call ∈ r'.calls → ∀ e e', b.failure? call = some e →
        b'.failure? call = some e' → ¬ e.RefusesCredentials → ¬ e'.RefusesCredentials →
          r'.verdict = r.verdict := by
  intro r
  have hr : r.FailsClosed b := failsClosed_ruling b ctx c p
  refine ⟨?_, rfl, hr.source, ?_⟩
  · intro call hcall e he
    have hverdict := hr.denied call hcall e he
    by_cases hrefuses : e.RefusesCredentials
    · rw [Denial.ofFailure_of_refuses hrefuses] at hverdict
      simp [hverdict, hrefuses]
    · rw [Denial.ofFailure_of_not_refuses hrefuses] at hverdict
      simp [hverdict, hrefuses]
  · intro p' b' r' call hcall hcall' e e' he he' hrefuses hrefuses'
    have hr' : r'.FailsClosed b' := failsClosed_ruling b' ctx c p'
    rw [hr.denied call hcall e he, hr'.denied call hcall' e' he',
      Denial.ofFailure_of_not_refuses hrefuses, Denial.ofFailure_of_not_refuses hrefuses']

/-- A check by role whose first request is answered and whose second fails: an expired token is
handed on, and an unreachable provider cannot be told from a broken one. -/
theorem failed_role_lookup_is_hidden :
    let b (failure : IdentityFailure) : Backend := .ofMemory { outage := some failure } {}
    let ruling (failure : IdentityFailure) : Ruling :=
      (roleOnUser .videoIdentification "dep" "u-1").ruling ⟨∅, "master"⟩ (b failure)
        { accessToken := some "TOKEN" }
    let call : Call := .roleNamesOfUser "TOKEN" "dep" "u-1"
    (ruling (.http 401 "expired")).verdict =
        .deny (.unauthorized (.identity (.http 401 "expired"))) ∧
      call ∈ (ruling (.http 500 "boom")).calls ∧
      (ruling (.http 500 "boom")).verdict = .deny .forbidden ∧
      (ruling (.transport "reset")).verdict = (ruling (.http 500 "boom")).verdict := by
  intro b ruling call
  have hcall : ∀ failure, call ∈ (ruling failure).calls := fun _ => .tail _ (.head _)
  have hhttp : ¬ Failure.RefusesCredentials (.identity (.http 500 "boom")) := by
    simp [Failure.RefusesCredentials]
  have htransport : ¬ Failure.RefusesCredentials (.identity (.transport "reset")) := by
    simp [Failure.RefusesCredentials]
  obtain ⟨hexpired, -⟩ := failures_are_hidden (roleOnUser .videoIdentification "dep" "u-1")
    ⟨∅, "master"⟩ (b (.http 401 "expired")) { accessToken := some "TOKEN" }
  obtain ⟨hbroken, -, -, hsame⟩ := failures_are_hidden (roleOnUser .videoIdentification "dep" "u-1")
    ⟨∅, "master"⟩ (b (.http 500 "boom")) { accessToken := some "TOKEN" }
  exact ⟨(hexpired call (hcall _) _ rfl).1 ⟨"expired", rfl⟩, hcall _,
    (hbroken call (hcall _) _ rfl).2.1 hhttp,
    hsame ⟨∅, "master"⟩ (b (.transport "reset")) call (hcall _) (hcall _) _ _ rfl rfl hhttp
      htransport⟩

end Check

end RealmAccess
