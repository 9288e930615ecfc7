/-
RealmAccess.Proofs.Ruling.Confidentiality — what a check does not depend on.

A context says more than the checks use: an access token that is only handed
on, and the name and identifier of the user, which nobody reads. Two contexts
that differ in nothing else lead every check to one verdict and one log, and
to the same requests but for the token in them.

The comparison is made through the eyes of an observer, who may take some
requests or some events for the same. `Observer.LooksAlike` is what two actors
have to share so that the observer cannot tell them apart, and each step of a
check keeps two rulings apart no more than their rests are. So an observer of
whole checks cannot tell either (`Check.seenBy_ruling`). One who overlooks
tokens gives the first half of `identity_leaves_no_trace`, and one who
overlooks correlation identifiers the second.
-/
import RealmAccess.Directory
import RealmAccess.Proofs.Ruling.Check

namespace RealmAccess

/-! ## Observers -/

/-- The request made with another token, if it is made with one. -/
def Call.withToken (token : String) : Call → Call
  | .groupNamesOfUser _ realm user => .groupNamesOfUser token realm user
  | .groupName _ realm group => .groupName token realm group
  | .roleNamesOfUser _ realm user => .roleNamesOfUser token realm user
  | call => call

theorem Call.withToken_withToken (token token' : String) (call : Call) :
    (call.withToken token).withToken token' = call.withToken token' := by
  cases call <;> rfl

/-- The event without a correlation identifier. -/
def Event.withoutCorrelationId (e : Event) : Event :=
  { e with fields := e.fields.filter (·.1 ≠ "correlation_id") }

/-- What an observer makes of a request and of an event. -/
structure Observer where
  call : Call → Call
  event : Event → Event

/-- The ruling as an observer sees it. The verdict is plain to see. -/
def Ruling.seenBy (o : Observer) (r : Ruling) : Ruling :=
  ⟨r.verdict, r.calls.map o.call, r.events.map o.event⟩

/-- Two backends answer two contexts the same, whatever tokens these ask with. -/
structure Backend.AnswerAlike (b : Backend) (ctx : Context) (b' : Backend) (ctx' : Context) :
    Prop where
  adminConfiguration : b.adminConfiguration = b'.adminConfiguration
  groupNamesOfUser : ∀ token ∈ ctx.accessToken, ∀ token' ∈ ctx'.accessToken,
    b.groupNamesOfUser token = b'.groupNamesOfUser token'
  groupName : ∀ token ∈ ctx.accessToken, ∀ token' ∈ ctx'.accessToken,
    b.groupName token = b'.groupName token'
  roleNamesOfUser : ∀ token ∈ ctx.accessToken, ∀ token' ∈ ctx'.accessToken,
    b.roleNamesOfUser token = b'.roleNamesOfUser token'

/-- An observer cannot tell two actors apart: they have the same realm, groups and roles, a token
both or neither, and their refusals and their requests look the same. -/
structure Observer.LooksAlike (o : Observer) (ctx ctx' : Context) : Prop where
  realm : ctx.realm = ctx'.realm
  groups : ctx.groups = ctx'.groups
  roles : ctx.roles = ctx'.roles
  hasToken : ctx.accessToken.isSome = ctx'.accessToken.isSome
  calls : ∀ token ∈ ctx.accessToken, ∀ token' ∈ ctx'.accessToken, ∀ call : Call,
    o.call (call.withToken token) = o.call (call.withToken token')
  refuse : ∀ message fields,
    (Ruling.refuse ctx message fields).seenBy o = (Ruling.refuse ctx' message fields).seenBy o

/-! ## One step of a check -/

namespace Observer.LooksAlike

variable {o : Observer} {ctx ctx' : Context} (h : o.LooksAlike ctx ctx')

include h

theorem allowIf (allowed : Bool) (message : String) (fields : List (String × EventValue)) :
    (Ruling.allowIf allowed ctx message fields).seenBy o =
      (Ruling.allowIf allowed ctx' message fields).seenBy o := by
  cases allowed with
  | true => rfl
  | false => exact h.refuse message fields

theorem withRealm {rest rest' : String → Ruling}
    (hrest : ∀ realm, (rest realm).seenBy o = (rest' realm).seenBy o) :
    (Ruling.withRealm ctx rest).seenBy o = (Ruling.withRealm ctx' rest').seenBy o := by
  rw [Ruling.withRealm_eq, Ruling.withRealm_eq, ← h.realm]
  cases ctx.realm with
  | none => rfl
  | some realm => exact hrest realm

theorem withGroups {rest rest' : List String → Ruling}
    (hrest : ∀ groups, (rest groups).seenBy o = (rest' groups).seenBy o) :
    (Ruling.withGroups ctx rest).seenBy o = (Ruling.withGroups ctx' rest').seenBy o := by
  rw [Ruling.withGroups_eq, Ruling.withGroups_eq, ← h.groups]
  cases ctx.groups with
  | none => rfl
  | some groups => exact hrest groups

/-- Each goes on with its own token. -/
theorem withToken {rest rest' : String → Ruling}
    (hrest : ∀ token ∈ ctx.accessToken, ∀ token' ∈ ctx'.accessToken,
      (rest token).seenBy o = (rest' token').seenBy o) :
    (Ruling.withToken ctx rest).seenBy o = (Ruling.withToken ctx' rest').seenBy o := by
  rw [Ruling.withToken_eq, Ruling.withToken_eq]
  have hboth := h.hasToken
  cases htoken : ctx.accessToken with
  | none =>
    cases htoken' : ctx'.accessToken with
    | none => rfl
    | some token' => simp [htoken, htoken'] at hboth
  | some token =>
    cases htoken' : ctx'.accessToken with
    | none => simp [htoken, htoken'] at hboth
    | some token' => exact hrest token htoken token' htoken'

end Observer.LooksAlike

/-- A request that looks the same and is answered the same leaves the rest to look at. -/
theorem Ruling.seenBy_withAnswer {o : Observer} {ε α : Type} {call call' : Call}
    {asFailure : ε → Failure} {answer answer' : Except ε α} {rest rest' : α → Ruling}
    (hcall : o.call call = o.call call') (hanswer : answer = answer')
    (hrest : ∀ a, (rest a).seenBy o = (rest' a).seenBy o) :
    (withAnswer call asFailure answer rest).seenBy o =
      (withAnswer call' asFailure answer' rest').seenBy o := by
  have hafter : ∀ {r r' : Ruling}, r.seenBy o = r'.seenBy o →
      (r.after call).seenBy o = (r'.after call').seenBy o := by
    intro r r' hr
    simp only [seenBy, Ruling.mk.injEq] at hr
    simp only [seenBy, verdict_after, calls_after, events_after, List.map_cons, hcall, hr]
  subst hanswer
  cases answer with
  | error e => exact hafter rfl
  | ok a => exact hafter (hrest a)

/-! ## Every check -/

section

variable {o : Observer} {b b' : Backend} {ctx ctx' : Context}

theorem Policy.seenBy_onGroup (h : o.LooksAlike ctx ctx') (p : Policy)
    (action targetRealm targetGroup : String) :
    (p.onGroup ctx action targetRealm targetGroup).seenBy o =
      (p.onGroup ctx' action targetRealm targetGroup).seenBy o :=
  h.withRealm fun _ => h.withGroups fun _ => h.allowIf _ _ _

theorem Policy.seenBy_onAnyGroup (h : o.LooksAlike ctx ctx') (p : Policy)
    (action targetRealm : String) (targetGroups : List String) :
    (p.onAnyGroup ctx action targetRealm targetGroups).seenBy o =
      (p.onAnyGroup ctx' action targetRealm targetGroups).seenBy o :=
  h.withRealm fun _ => h.withGroups fun _ => h.allowIf _ _ _

/-- Who cannot tell two actors apart cannot do so by a check of both. -/
theorem Check.seenBy_ruling (h : o.LooksAlike ctx ctx') (hb : b.AnswerAlike ctx b' ctx')
    (c : Check) (p : Policy) :
    (c.ruling p b ctx).seenBy o = (c.ruling p b' ctx').seenBy o := by
  cases c with
  | onRealm action targetRealm =>
    exact h.withRealm fun _ => h.withGroups fun _ => h.allowIf _ _ _
  | onGroup action targetRealm targetGroup =>
    exact p.seenBy_onGroup h action targetRealm targetGroup
  | onGroupId action targetRealm groupId =>
    refine h.withToken fun token htoken token' htoken' => ?_
    refine Ruling.seenBy_withAnswer (h.calls token htoken token' htoken' (.groupName "" _ _)) ?_ ?_
    · rw [hb.groupName token htoken token' htoken']
    · intro name
      by_cases hname : name = ""
      · rw [if_pos hname, if_pos hname]
        exact h.refuse _ _
      · rw [if_neg hname, if_neg hname]
        exact p.seenBy_onGroup h action targetRealm name
  | onUser action targetRealm user =>
    refine h.withToken fun token htoken token' htoken' => ?_
    refine Ruling.seenBy_withAnswer
      (h.calls token htoken token' htoken' (.groupNamesOfUser "" _ _)) ?_ ?_
    · rw [hb.groupNamesOfUser token htoken token' htoken']
    · exact p.seenBy_onAnyGroup h action targetRealm
  | onSelf action =>
    exact h.withRealm fun realm => h.withGroups fun groups =>
      p.seenBy_onAnyGroup h action realm groups
  | roleOnUser role targetRealm user =>
    refine h.withToken fun token htoken token' htoken' => ?_
    refine Ruling.seenBy_withAnswer rfl (by rw [hb.adminConfiguration]) fun c => ?_
    refine Ruling.seenBy_withAnswer
      (h.calls token htoken token' htoken' (.roleNamesOfUser "" _ _)) ?_ ?_
    · rw [hb.roleNamesOfUser token htoken token' htoken']
    · exact fun roles => h.allowIf _ _ _
  | roleOnSelf role =>
    refine h.withRealm fun realm => ?_
    refine Ruling.seenBy_withAnswer rfl (by rw [hb.adminConfiguration]) fun c => ?_
    rw [Context.roleNames, Context.roleNames, ← h.roles]
    exact h.allowIf _ _ _

end

/-! ## Main statement -/

/-- Two contexts say the same of an actor but for who that is: the value of the token, the user's
identifier and the user's name are left open. -/
structure Context.SameStanding (ctx ctx' : Context) : Prop where
  realm : ctx.realm = ctx'.realm
  groups : ctx.groups = ctx'.groups
  roles : ctx.roles = ctx'.roles
  correlationId : ctx.correlationId = ctx'.correlationId
  hasToken : ctx.accessToken.isSome = ctx'.accessToken.isSome

theorem Context.SameStanding.looksAlike {ctx ctx' : Context} (h : ctx.SameStanding ctx')
    (token : String) : Observer.LooksAlike ⟨Call.withToken token, id⟩ ctx ctx' where
  realm := h.realm
  groups := h.groups
  roles := h.roles
  hasToken := h.hasToken
  calls t _ t' _ call :=
    (call.withToken_withToken t token).trans (call.withToken_withToken t' token).symm
  refuse message fields := by
    rw [Ruling.refuse, Ruling.refuse, h.correlationId]

theorem Context.looksAlike_withCorrelationId (ctx : Context) (correlationId : Option String) :
    Observer.LooksAlike ⟨id, Event.withoutCorrelationId⟩ ctx { ctx with correlationId } where
  realm := rfl
  groups := rfl
  roles := rfl
  hasToken := rfl
  calls t ht t' ht' call := by
    rw [Option.mem_unique ht ht']
  refuse message fields := by
    have hstrip : ∀ i : Option String, Event.withoutCorrelationId
        ⟨.info, message, fields ++ Event.optionalText "correlation_id" i⟩ =
          Event.withoutCorrelationId ⟨.info, message, fields⟩ := by
      intro i
      cases i <;> simp [Event.withoutCorrelationId, Event.optionalText]
    simp only [Ruling.refuse, Ruling.seenBy, List.map_cons, List.map_nil, hstrip]

theorem Backend.AnswerAlike.refl (b : Backend) {ctx ctx' : Context}
    (h : ctx.accessToken = ctx'.accessToken) : b.AnswerAlike ctx b ctx' where
  adminConfiguration := rfl
  groupNamesOfUser _ ht _ ht' := congrArg b.groupNamesOfUser (Option.mem_unique (h ▸ ht) ht')
  groupName _ ht _ ht' := congrArg b.groupName (Option.mem_unique (h ▸ ht) ht')
  roleNamesOfUser _ ht _ ht' := congrArg b.roleNamesOfUser (Option.mem_unique (h ▸ ht) ht')

namespace Check

/-- **Who the actor is leaves no trace.** Take two contexts of the same standing and backends that
answer them alike: every check comes to the same verdict and logs the same events, and its requests
become the same with one token put into both; the rights listed are the same. In a service, whose
directory answers every token alike, such contexts get the same answers and leave the same log.
Another correlation identifier changes nothing but the events, and these in nothing but that. -/
theorem identity_leaves_no_trace (c : Check) (p : Policy) {b b' : Backend} {ctx ctx' : Context}
    (hctx : ctx.SameStanding ctx') (hb : b.AnswerAlike ctx b' ctx') :
    let r := c.ruling p b ctx
    let r' := c.ruling p b' ctx'
    r.verdict = r'.verdict ∧ r.events = r'.events ∧
    (∀ token, r.calls.map (Call.withToken token) = r'.calls.map (Call.withToken token)) ∧
    p.rights ctx = p.rights ctx' ∧
    (∀ s : Service,
      (s.run (c.command ctx)).1 = (s.run (c.command ctx')).1 ∧
      (s.run (c.command ctx)).2.journal.events = (s.run (c.command ctx')).2.journal.events ∧
      s.run (.listRights ctx) = s.run (.listRights ctx')) ∧
    ∀ correlationId, let other := { ctx with correlationId }
      let r'' := c.ruling p b other
      r.verdict = r''.verdict ∧ r.calls = r''.calls ∧
        r.events.map Event.withoutCorrelationId = r''.events.map Event.withoutCorrelationId ∧
        p.rights ctx = p.rights other := by
  have hseen : ∀ (q : Policy) {a a' : Backend}, a.AnswerAlike ctx a' ctx' → ∀ token,
      (c.ruling q a ctx).seenBy ⟨Call.withToken token, id⟩ =
        (c.ruling q a' ctx').seenBy ⟨Call.withToken token, id⟩ :=
    fun q _ _ ha token => seenBy_ruling (hctx.looksAlike token) ha c q
  have hsame : ∀ (q : Policy) {a a' : Backend}, a.AnswerAlike ctx a' ctx' →
      (c.ruling q a ctx).verdict = (c.ruling q a' ctx').verdict ∧
        (c.ruling q a ctx).events = (c.ruling q a' ctx').events := by
    intro q a a' ha
    have h := hseen q ha ""
    simp only [Ruling.seenBy, List.map_id, Ruling.mk.injEq] at h
    exact ⟨h.1, h.2.2⟩
  have hrights : ∀ q : Policy, q.rights ctx = q.rights ctx' := by
    intro q
    rw [Policy.rights, Policy.rights, hctx.realm, hctx.groups]
  refine ⟨(hsame p hb).1, (hsame p hb).2, ?_, hrights p, ?_, ?_⟩
  · intro token
    exact congrArg Ruling.calls (hseen p hb token)
  · intro s
    have hs : s.backend.AnswerAlike ctx s.backend ctx' :=
      ⟨rfl, fun _ _ _ _ => rfl, fun _ _ _ _ => rfl, fun _ _ _ _ => rfl⟩
    obtain ⟨hverdict, hevents⟩ := hsame s.policy hs
    rw [s.run_check, s.run_check, Service.note, Service.note, hverdict, hevents]
    refine ⟨rfl, rfl, ?_⟩
    rw [Service.run, Service.run, hrights]
  · intro correlationId other r''
    have hother : b.AnswerAlike ctx b other := Backend.AnswerAlike.refl b rfl
    have h := seenBy_ruling (ctx.looksAlike_withCorrelationId correlationId) hother c p
    simp only [Ruling.seenBy, List.map_id, Ruling.mk.injEq] at h
    exact ⟨h.1, h.2.1, h.2.2, rfl⟩

/-- Two members of one group, of whom one is known by name, ask about a user without groups. They
are refused by one and the same event, and what they asked differs in their tokens. -/
theorem two_members_are_refused_alike :
    let p : Policy := ⟨∅, "master"⟩
    let b : Backend := .ofMemory {} {}
    let known : Context :=
      { accessToken := some "A", realm := some "dep", groups := some ["toe"], userId := some "u-1",
        username := some "alice", correlationId := some "c-1" }
    let unknown : Context :=
      { accessToken := some "B", realm := some "dep", groups := some ["toe"],
        correlationId := some "c-1" }
    let c : Check := .onUser "GetUser" "dep" "u-7"
    known.SameStanding unknown ∧ b.AnswerAlike known b unknown ∧
      (∃ event, (c.ruling p b known).events = [event] ∧ (c.ruling p b unknown).events = [event]) ∧
      (c.ruling p b known).calls = [.groupNamesOfUser "A" "dep" "u-7"] ∧
      (c.ruling p b unknown).calls.map (Call.withToken "A") =
        [.groupNamesOfUser "A" "dep" "u-7"] := by
  intro p b known unknown c
  have hctx : known.SameStanding unknown := ⟨rfl, rfl, rfl, rfl, rfl⟩
  have hb : b.AnswerAlike known b unknown :=
    ⟨rfl, fun _ _ _ _ => rfl, fun _ _ _ _ => rfl, fun _ _ _ _ => rfl⟩
  obtain ⟨-, hevents, hcalls, -⟩ := identity_leaves_no_trace c p hctx hb
  exact ⟨hctx, hb, ⟨_, rfl, hevents.symm⟩, by decide, (hcalls "A").symm⟩

end Check

end RealmAccess
