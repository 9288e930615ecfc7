/-
RealmAccess.Proofs.Ruling.Audit — every denial is logged once, and nothing
else is.

A check has a simple course (`Ruling.Course`). Its requests are answered one
after the other, and then it ends in one of four ways: with an allowance, a
complaint about the context, a refusal that says what was asked, or the
failure of one more request. Only the last two log anything, and a failure
that is handed on logs nothing. So an event in the log stands for one denial,
and says whether it was decided or came from a failure.

Checks call one another, a group by identifier that by name and the actor
itself the one on any of some groups, and it is the course that keeps such a
call from logging twice: what calls has logged nothing so far.
-/
import RealmAccess.Proofs.Ruling.FailClosed

namespace RealmAccess

/-! ## Events of a denial -/

/-- An event says at level INFO that an action on a realm was refused, and to whom: it names both, and
the correlation identifier of the context just if there is one. -/
structure Event.TellsRefusal (e : Event) (ctx : Context) (action targetRealm : String) : Prop where
  level : e.level = .info
  action : ∀ v, ("action", v) ∈ e.fields ↔ v = .text action
  targetRealm : ∀ v, ("target_realm", v) ∈ e.fields ↔ v = .text targetRealm
  correlationId : ∀ v, ("correlation_id", v) ∈ e.fields ↔
    ∃ id, ctx.correlationId = some id ∧ v = .text id

/-! ## The course of a check -/

namespace Ruling

/-- The names that an event of a refusal gives to what every refusal tells. -/
def reservedNames : List String := ["action", "target_realm", "correlation_id"]

/-- A course of a check over a backend: some answered requests, and then one of four ends. -/
inductive Course (b : Backend) (ctx : Context) (action : String) (target : Option String) :
    Ruling → Prop
  | allow : Course b ctx action target .allow
  | missing (value : ContextValue) : Course b ctx action target (.missing value)
  | refuse (message targetRealm : String) (more : List (String × EventValue))
      (htarget : target = some targetRealm) (hmore : ∀ f ∈ more, f.1 ∉ reservedNames) :
      Course b ctx action target
        (.refuse ctx message
          (("action", .text action) :: ("target_realm", .text targetRealm) :: more))
  | failed (call : Call) (e : Failure) (hcall : b.failure? call = some e) :
      Course b ctx action target ((Ruling.failed e).after call)
  | answered (call : Call) (hcall : b.failure? call = none) (r : Ruling)
      (rest : Course b ctx action target r) : Course b ctx action target (r.after call)

namespace Course

variable {b : Backend} {ctx : Context} {action : String} {target : Option String}

theorem allowIf (allowed : Bool) (message : String) {targetRealm : String}
    {more : List (String × EventValue)} (htarget : target = some targetRealm)
    (hmore : ∀ f ∈ more, f.1 ∉ reservedNames) :
    Course b ctx action target (.allowIf allowed ctx message
      (("action", .text action) :: ("target_realm", .text targetRealm) :: more)) := by
  cases allowed with
  | true => exact allow
  | false => exact refuse message targetRealm more htarget hmore

theorem withToken {rest : String → Ruling} (h : ∀ token, Course b ctx action target (rest token)) :
    Course b ctx action target (.withToken ctx rest) := by
  rw [withToken_eq]
  cases ctx.accessToken with
  | none => exact missing _
  | some token => exact h token

theorem withRealm {rest : String → Ruling}
    (h : ∀ realm, ctx.realm = some realm → Course b ctx action target (rest realm)) :
    Course b ctx action target (.withRealm ctx rest) := by
  rw [withRealm_eq]
  cases hrealm : ctx.realm with
  | none => exact missing _
  | some realm => exact h realm hrealm

theorem withGroups {rest : List String → Ruling}
    (h : ∀ groups, Course b ctx action target (rest groups)) :
    Course b ctx action target (.withGroups ctx rest) := by
  rw [withGroups_eq]
  cases ctx.groups with
  | none => exact missing _
  | some groups => exact h groups

theorem withAnswer {ε α : Type} {call : Call} {asFailure : ε → Failure} {answer : Except ε α}
    {rest : α → Ruling} (hcall : b.failure? call = failureOf asFailure answer)
    (h : ∀ a, Course b ctx action target (rest a)) :
    Course b ctx action target (.withAnswer call asFailure answer rest) := by
  cases answer with
  | error e => exact failed call (asFailure e) hcall
  | ok a => exact answered call hcall (rest a) (h a)

end Course

end Ruling

/-! ## Every check -/

section

open Ruling.Course

variable (b : Backend) (ctx : Context) (p : Policy)

theorem Policy.course_onGroup (action targetRealm targetGroup : String) :
    (p.onGroup ctx action targetRealm targetGroup).Course b ctx action (some targetRealm) :=
  withRealm fun _ _ => withGroups fun _ => allowIf _ _ rfl (by simp [Ruling.reservedNames])

theorem Policy.course_onAnyGroup (action targetRealm : String) (targetGroups : List String) :
    (p.onAnyGroup ctx action targetRealm targetGroups).Course b ctx action (some targetRealm) :=
  withRealm fun _ _ => withGroups fun _ => allowIf _ _ rfl (by simp [Ruling.reservedNames])

theorem RoleAction.course_decide (role : RoleAction) {target : Option String} {targetRealm : String}
    (htarget : target = some targetRealm) (roles : List String) (c : AdminConfiguration) :
    (role.decide ctx targetRealm roles c).Course b ctx role.name target :=
  allowIf _ _ htarget (by simp [Ruling.reservedNames])

theorem Check.course_ruling (c : Check) :
    (c.ruling p b ctx).Course b ctx c.actionName (c.targetRealm? ctx) := by
  cases c with
  | onRealm action targetRealm =>
    exact withRealm fun _ _ => withGroups fun _ => allowIf _ _ rfl (by simp [Ruling.reservedNames])
  | onGroup action targetRealm targetGroup =>
    exact p.course_onGroup b ctx action targetRealm targetGroup
  | onGroupId action targetRealm groupId =>
    refine withToken fun token => withAnswer rfl fun name => ?_
    by_cases hname : name = ""
    · rw [if_pos hname]
      exact refuse _ _ _ rfl (by simp [Ruling.reservedNames])
    · rw [if_neg hname]
      exact p.course_onGroup b ctx action targetRealm name
  | onUser action targetRealm user =>
    exact withToken fun token => withAnswer rfl (p.course_onAnyGroup b ctx action targetRealm)
  | onSelf action =>
    refine withRealm fun realm hrealm => withGroups fun groups => ?_
    show Ruling.Course b ctx action ctx.realm _
    rw [hrealm]
    exact p.course_onAnyGroup b ctx action realm groups
  | roleOnUser role targetRealm user =>
    exact withToken fun token => withAnswer rfl fun c => withAnswer rfl fun roles =>
      role.course_decide b ctx rfl roles c
  | roleOnSelf role =>
    exact withRealm fun realm hrealm => withAnswer rfl fun c =>
      role.course_decide b ctx hrealm ctx.roleNames c

end

/-! ## What a course logs -/

namespace Ruling.Course

variable {b : Backend} {ctx : Context} {action : String} {target : Option String} {r : Ruling}

theorem tellsRefusal {message targetRealm : String} {more : List (String × EventValue)}
    (hmore : ∀ f ∈ more, f.1 ∉ reservedNames) :
    Event.TellsRefusal ⟨.info, message,
      (("action", .text action) :: ("target_realm", .text targetRealm) :: more) ++
        Event.optionalText "correlation_id" ctx.correlationId⟩ ctx action targetRealm := by
  have hfree : ∀ name v, name ∈ reservedNames → (name, v) ∉ more := by
    intro name v hname hmem
    exact hmore _ hmem hname
  have haction := fun v => hfree "action" v (by simp [reservedNames])
  have hrealm := fun v => hfree "target_realm" v (by simp [reservedNames])
  have hid := fun v => hfree "correlation_id" v (by simp [reservedNames])
  constructor
  · rfl
  · intro v
    cases ctx.correlationId <;> simp [Event.optionalText, haction]
  · intro v
    cases ctx.correlationId <;> simp [Event.optionalText, hrealm]
  · intro v
    cases ctx.correlationId <;> simp [Event.optionalText, hid, eq_comm]

/-- Nothing is logged unless the verdict is the denial proper. -/
theorem events_eq_nil (h : Course b ctx action target r) (hverdict : r.verdict ≠ .deny .forbidden) :
    r.events = [] := by
  induction h with
  | allow => rfl
  | missing value => rfl
  | refuse message targetRealm more htarget hmore => exact absurd rfl hverdict
  | failed call e hcall =>
    by_cases hrefuses : e.RefusesCredentials
    · exact if_pos (Failure.status?_eq_unauthorized.mpr hrefuses)
    · exact absurd (congrArg Verdict.deny (Denial.ofFailure_of_not_refuses hrefuses)) hverdict
  | answered call hcall r rest ih => exact ih hverdict

/-- A denial proper is logged by one event: that of the failed request, or one that tells what was
refused. -/
theorem events_of_forbidden (h : Course b ctx action target r)
    (hverdict : r.verdict = .deny .forbidden) :
    (∀ call ∈ r.calls, ∀ e, b.failure? call = some e → r.events =
      [⟨.debug, "Collaborator failure reported as forbidden", [("error", .text e.message)]⟩]) ∧
    ((∀ call ∈ r.calls, b.failure? call = none) → ∃ targetRealm event,
      target = some targetRealm ∧ r.events = [event] ∧
        event.TellsRefusal ctx action targetRealm) := by
  induction h with
  | allow => cases hverdict
  | missing value => cases hverdict
  | refuse message targetRealm more htarget hmore =>
    exact ⟨fun call hcall => absurd hcall List.not_mem_nil,
      fun _ => ⟨targetRealm, _, htarget, rfl, tellsRefusal hmore⟩⟩
  | failed call e hcall =>
    have hrefuses : ¬ e.RefusesCredentials := by
      intro hrefuses
      have hdenial : Denial.ofFailure e = .forbidden := Verdict.deny.inj hverdict
      rw [Denial.ofFailure_of_refuses hrefuses] at hdenial
      cases hdenial
    constructor
    · intro call' hcall' e' he'
      obtain rfl : call' = call := List.mem_singleton.mp hcall'
      obtain rfl : e = e' := Option.some.inj (hcall.symm.trans he')
      exact if_neg (mt Failure.status?_eq_unauthorized.mp hrefuses)
    · intro hnone
      have hanswered := hnone call (List.mem_singleton_self call)
      rw [hcall] at hanswered
      cases hanswered
  | answered call hcall r rest ih =>
    obtain ⟨hfailed, hrefused⟩ := ih hverdict
    constructor
    · intro call' hcall' e' he'
      rcases List.mem_cons.mp hcall' with rfl | hrest
      · rw [hcall] at he'
        cases he'
      · exact hfailed call' hrest e' he'
    · intro hnone
      exact hrefused fun call' hcall' => hnone call' (List.mem_cons_of_mem call hcall')

end Ruling.Course

/-! ## Main statement -/

namespace Check

/-- **Every denial is logged once.** A check that is allowed, complains about the context or hands a
failure on logs nothing. One that is denied logs one event: if a request failed, that of the failure,
at level DEBUG with the failure's text; otherwise one at level INFO that names the action, the realm
and the correlation identifier, which is left out if the context has none. A service logs for a check
just what the check does, and for a question about named groups nothing. -/
theorem denials_are_logged_once (c : Check) (p : Policy) (b : Backend) (ctx : Context) :
    let r := c.ruling p b ctx
    (r.verdict ≠ .deny .forbidden → r.events = []) ∧
    (r.verdict = .deny .forbidden →
      (∀ call ∈ r.calls, ∀ e, b.failure? call = some e → r.events =
        [⟨.debug, "Collaborator failure reported as forbidden", [("error", .text e.message)]⟩]) ∧
      ((∀ call ∈ r.calls, b.failure? call = none) → ∃ targetRealm event,
        c.targetRealm? ctx = some targetRealm ∧ r.events = [event] ∧
          event.TellsRefusal ctx c.actionName targetRealm)) ∧
    ∀ s : Service,
      (s.run (c.command ctx)).2.journal.events =
        s.journal.events ++ (c.ruling s.policy s.backend ctx).events ∧
      ∀ realm groups action targetRealm targetGroup,
        (s.run (.groupsOnRealm realm groups action targetRealm)).2.journal = s.journal ∧
        (s.run (.groupsOnGroup realm groups action targetRealm targetGroup)).2.journal =
          s.journal := by
  intro r
  have hcourse : r.Course b ctx c.actionName (c.targetRealm? ctx) := c.course_ruling b ctx p
  refine ⟨hcourse.events_eq_nil, hcourse.events_of_forbidden, ?_⟩
  intro s
  refine ⟨?_, fun _ _ _ _ _ => ⟨rfl, rfl⟩⟩
  rw [s.run_check]
  rfl

/-- A provider that cannot be reached leaves its text in the log and nothing of what was asked; a user
without groups leaves what was asked, and no correlation identifier where there is none. -/
theorem unreachable_provider_and_groupless_user :
    let p : Policy := ⟨Matrix.load [⟨"master", "toe", "GetUser", some "*", some "*"⟩], "master"⟩
    let ctx : Context :=
      { accessToken := some "TOKEN", realm := some "master", groups := some ["toe"] }
    let c : Check := .onUser "GetUser" "dep" "u-1"
    let lost := c.ruling p (.ofMemory { outage := some (.transport "reset") } {}) ctx
    let bare := c.ruling p (.ofMemory {} {}) ctx
    lost.verdict = .deny .forbidden ∧ bare.verdict = .deny .forbidden ∧
      lost.events = [⟨.debug, "Collaborator failure reported as forbidden",
        [("error", .text "Identity provider unreachable: reset")]⟩] ∧
      ∃ event, bare.events = [event] ∧ event.TellsRefusal ctx "GetUser" "dep" := by
  intro p ctx c lost bare
  have hlost : lost.verdict = .deny .forbidden := by decide
  have hbare : bare.verdict = .deny .forbidden := by decide
  obtain ⟨-, hlogged, -⟩ := denials_are_logged_once c p
    (.ofMemory { outage := some (.transport "reset") } {}) ctx
  obtain ⟨-, hlogged', -⟩ := denials_are_logged_once c p (.ofMemory {} {}) ctx
  have hfailed := (hlogged hlost).1 (.groupNamesOfUser "TOKEN" "dep" "u-1") (.head _) _ rfl
  have hanswered : ∀ call ∈ bare.calls, (Backend.ofMemory {} {}).failure? call = none := by
    rintro call (_ | ⟨_, hcall⟩)
    · rfl
    · cases hcall
  obtain ⟨targetRealm, event, htarget, hevent, htells⟩ := (hlogged' hbare).2 hanswered
  obtain rfl : "dep" = targetRealm := Option.some.inj htarget
  exact ⟨hlost, hbare, hfailed, event, hevent, htells⟩

end Check

end RealmAccess
