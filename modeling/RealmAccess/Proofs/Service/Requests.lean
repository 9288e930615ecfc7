/-
RealmAccess.Proofs.Service.Requests — which requests are made, and by whom.

Two things make requests. A check asks the identity provider or the admin
configurations, and `Check.calls` is the table of what it asks, in order and
for which realm; no check asks for the rows. A reload asks for the rows, once
it has the lock and at no other moment.

The second half is a matter of counting over a run. Whatever a service is
told, what it adds to the journal on its own account are requests for rows,
as many as fetches began (`onlyFetches_of_drifts`). The reloader, for its part,
has begun a fetch whenever a caller took the lock, and no caller takes it
more often than it asked: what has been asked for and not begun is still in
the queue (`Reloader.count_ask`). So the requests for rows in the journal are
the reloads that got to the lock, neither more nor fewer.
-/
import RealmAccess.Proofs.Ruling.Check
import RealmAccess.Proofs.Service.Background
import RealmAccess.Proofs.Service.Moves

namespace RealmAccess

/-! ## What checks ask -/

/-- The requests that a check makes, in order. -/
def Check.calls (c : Check) (b : Backend) (ctx : Context) : List Call :=
  match c with
  | .onRealm _ _ | .onGroup _ _ _ | .onSelf _ => []
  | .onGroupId _ targetRealm groupId =>
    match ctx.accessToken with
    | none => []
    | some token => [.groupName token targetRealm groupId]
  | .onUser _ targetRealm user =>
    match ctx.accessToken with
    | none => []
    | some token => [.groupNamesOfUser token targetRealm user]
  | .roleOnUser _ targetRealm user =>
    match ctx.accessToken, b.adminConfiguration targetRealm with
    | none, _ => []
    | some _, .error _ => [.adminConfiguration targetRealm]
    | some token, .ok _ => [.adminConfiguration targetRealm, .roleNamesOfUser token targetRealm user]
  | .roleOnSelf _ =>
    match ctx.realm with
    | none => []
    | some realm => [.adminConfiguration realm]

namespace Ruling

variable {ctx : Context}

theorem calls_allowIf (allowed : Bool) (message : String) (fields : List (String × EventValue)) :
    (allowIf allowed ctx message fields).calls = [] := by
  cases allowed <;> rfl

/-- A check that the context decides asks nobody. -/
theorem calls_actor {rest : String → List String → Ruling}
    (h : ∀ realm groups, (rest realm groups).calls = []) :
    (withRealm ctx fun realm => withGroups ctx fun groups => rest realm groups).calls = [] := by
  rw [withRealm_eq]
  cases ctx.realm with
  | none => rfl
  | some realm =>
    rw [Option.elim_some, withGroups_eq]
    cases ctx.groups with
    | none => rfl
    | some groups => exact h realm groups

end Ruling

section

open Ruling

variable (p : Policy) (b : Backend) (ctx : Context)

theorem Policy.calls_onGroup (action targetRealm targetGroup : String) :
    (p.onGroup ctx action targetRealm targetGroup).calls = [] :=
  calls_actor fun _ _ => calls_allowIf _ _ _

theorem Policy.calls_onAnyGroup (action targetRealm : String) (targetGroups : List String) :
    (p.onAnyGroup ctx action targetRealm targetGroups).calls = [] :=
  calls_actor fun _ _ => calls_allowIf _ _ _

/-- **A check makes the requests of the table**, whatever the policy. -/
theorem Check.calls_ruling (c : Check) : (c.ruling p b ctx).calls = c.calls b ctx := by
  cases c with
  | onRealm action targetRealm => exact calls_actor fun _ _ => calls_allowIf _ _ _
  | onGroup action targetRealm targetGroup => exact p.calls_onGroup ctx action targetRealm targetGroup
  | onSelf action => exact calls_actor fun realm groups => p.calls_onAnyGroup ctx action realm groups
  | onGroupId action targetRealm groupId =>
    simp only [ruling, Policy.onGroupId, withToken_eq, calls]
    cases ctx.accessToken with
    | none => rfl
    | some token =>
      rw [Option.elim_some]
      cases b.groupName token targetRealm groupId with
      | error e => rfl
      | ok name =>
        rw [withAnswer_ok, calls_after]
        split
        · rfl
        · rw [p.calls_onGroup]
  | onUser action targetRealm user =>
    simp only [ruling, Policy.onUser, withToken_eq, calls]
    cases ctx.accessToken with
    | none => rfl
    | some token =>
      rw [Option.elim_some]
      cases b.groupNamesOfUser token targetRealm user with
      | error e => rfl
      | ok groups => rw [withAnswer_ok, calls_after, p.calls_onAnyGroup]
  | roleOnUser role targetRealm user =>
    simp only [ruling, RoleAction.onUser, withToken_eq, calls]
    cases ctx.accessToken with
    | none => rfl
    | some token =>
      rw [Option.elim_some]
      cases b.adminConfiguration targetRealm with
      | error e => rfl
      | ok configuration =>
        rw [withAnswer_ok, calls_after]
        cases b.roleNamesOfUser token targetRealm user with
        | error e => rfl
        | ok roles => rw [withAnswer_ok, calls_after, RoleAction.decide, calls_allowIf]
  | roleOnSelf role =>
    simp only [ruling, RoleAction.onSelf, withRealm_eq, calls]
    cases ctx.realm with
    | none => rfl
    | some realm =>
      rw [Option.elim_some]
      cases b.adminConfiguration realm with
      | error e => rfl
      | ok configuration => rw [withAnswer_ok, calls_after, RoleAction.decide, calls_allowIf]

/-- No check asks for the rows. -/
theorem Check.authorizations_not_mem_calls (c : Check) : .authorizations ∉ c.calls b ctx := by
  cases c with
  | onRealm | onGroup | onSelf => exact List.not_mem_nil
  | onGroupId | onUser | roleOnUser | roleOnSelf =>
    simp only [calls]
    split <;> simp

end

/-! ## What reloads ask -/

namespace Reloader

/-- Whether a caller takes the lock by a move. -/
def Move.takesLock : Move → Bool
  | .launch _ => true
  | _ => false

@[simp] theorem fetches_conclude (r : Reloader) (fetch : Fetch) (outcome : Outcome) :
    (r.conclude fetch outcome).fetches = r.fetches := by
  cases outcome <;> rfl

theorem fetches_move {r r' : Reloader} {m : Move} (h : r.move m = some r') :
    r'.fetches = r.fetches + if m.takesLock then 1 else 0 := by
  cases m with
  | ask caller =>
    obtain ⟨-, rfl⟩ := move_ask_iff.mp h
    rfl
  | launch caller =>
    obtain ⟨-, -, rfl⟩ := move_launch_iff.mp h
    rfl
  | land outcome =>
    obtain ⟨fetch, -, rfl⟩ := move_land_iff.mp h
    exact fetches_conclude r fetch outcome
  | _ =>
    cases h
    rfl

/-- A fetch begins whenever the lock is taken. -/
theorem fetches_play : ∀ (ms : List Move) {r r' : Reloader}, r.play ms = some r' →
    r'.fetches = r.fetches + ms.countP Move.takesLock
  | [], r, r', h => by
      cases h
      rfl
  | m :: ms, r, r', h => by
      rw [play_cons, Option.bind_eq_some_iff] at h
      obtain ⟨q, hm, hms⟩ := h
      rw [fetches_play ms hms, fetches_move hm, List.countP_cons]
      omega

theorem count_move {r r' : Reloader} {m : Move} (h : r.move m = some r') (caller : Caller) :
    r.queue.count caller + [m].count (.ask caller) =
      [m].count (.launch caller) + r'.queue.count caller := by
  cases m with
  | ask other =>
    obtain ⟨-, rfl⟩ := move_ask_iff.mp h
    by_cases hother : other = caller
    · simp [ask, hother]
    · simp [ask, hother]
  | launch other =>
    obtain ⟨-, hmem, rfl⟩ := move_launch_iff.mp h
    have hqueue : (r.launch other (r.queue.erase other)).queue = r.queue.erase other := rfl
    rw [hqueue]
    by_cases hother : other = caller
    · subst hother
      have hpos : 0 < r.queue.count other := List.count_pos_iff.mpr hmem
      simp
      omega
    · simp [hother, List.count_erase_of_ne (Ne.symm hother)]
  | land outcome =>
    obtain ⟨fetch, -, rfl⟩ := move_land_iff.mp h
    simp
  | _ =>
    cases h
    simp

/-- What a caller asked for has begun once for each time, save what waits for the lock. -/
theorem count_ask : ∀ (ms : List Move) {r r' : Reloader}, r.play ms = some r' → ∀ caller,
    r.queue.count caller + ms.count (.ask caller) =
      ms.count (.launch caller) + r'.queue.count caller
  | [], r, r', h, caller => by
      cases h
      simp
  | m :: ms, r, r', h, caller => by
      rw [play_cons, Option.bind_eq_some_iff] at h
      obtain ⟨q, hm, hms⟩ := h
      have hhead := count_move hm caller
      have htail := count_ask ms hms caller
      have hsplit : ∀ move, (m :: ms).count move = [m].count move + ms.count move := by
        intro move
        rw [← List.count_append, List.singleton_append]
      have hask := hsplit (.ask caller)
      have hlaunch := hsplit (.launch caller)
      omega

end Reloader

namespace Service

/-- All that was asked on the way from one state to another are rows, once for each fetch. -/
def OnlyFetches (s t : Service) : Prop :=
  ∃ n, t.reloader.fetches = s.reloader.fetches + n ∧
    t.journal.calls = s.journal.calls ++ List.replicate n .authorizations

namespace OnlyFetches

theorem of_eq {s t : Service} (hfetches : t.reloader.fetches = s.reloader.fetches)
    (hcalls : t.journal.calls = s.journal.calls) : s.OnlyFetches t :=
  ⟨0, hfetches, by rw [hcalls, List.replicate_zero, List.append_nil]⟩

theorem refl (s : Service) : s.OnlyFetches s := of_eq rfl rfl

theorem trans {s t u : Service} (h : s.OnlyFetches t) (h' : t.OnlyFetches u) : s.OnlyFetches u := by
  obtain ⟨n, hfetches, hcalls⟩ := h
  obtain ⟨m, hfetches', hcalls'⟩ := h'
  refine ⟨n + m, by omega, ?_⟩
  rw [hcalls', hcalls, List.append_assoc, List.replicate_append_replicate]

end OnlyFetches

open OnlyFetches

theorem onlyFetches_of_stirs {s t : Service} (h : s.Stirs t) : s.OnlyFetches t := by
  cases h with
  | launch caller others => exact ⟨1, rfl, rfl⟩
  | land fetch => exact of_eq (Reloader.fetches_conclude _ _ _) rfl
  | _ => exact of_eq rfl rfl

theorem onlyFetches_of_drifts {s t : Service} (h : s.Drifts t) : s.OnlyFetches t := by
  induction h with
  | refl => exact refl s
  | tail _ hstirs ih => exact ih.trans (onlyFetches_of_stirs hstirs)

/-- A command is a check, or asks for rows only. -/
theorem check_or_onlyFetches (c : Command) :
    (∃ (check : Check) (ctx : Context), c = check.command ctx) ∨
      ∀ s : Service, s.OnlyFetches (s.run c).2 := by
  cases c with
  | checkRealm ctx action targetRealm => exact .inl ⟨.onRealm action targetRealm, ctx, rfl⟩
  | checkGroup ctx action targetRealm targetGroup =>
    exact .inl ⟨.onGroup action targetRealm targetGroup, ctx, rfl⟩
  | checkGroupId ctx action targetRealm groupId =>
    exact .inl ⟨.onGroupId action targetRealm groupId, ctx, rfl⟩
  | checkUser ctx action targetRealm user => exact .inl ⟨.onUser action targetRealm user, ctx, rfl⟩
  | checkSelf ctx action => exact .inl ⟨.onSelf action, ctx, rfl⟩
  | checkRoleOnUser ctx role targetRealm user =>
    exact .inl ⟨.roleOnUser role targetRealm user, ctx, rfl⟩
  | checkRoleOnSelf ctx role => exact .inl ⟨.roleOnSelf role, ctx, rfl⟩
  | release | reload | join | advance | startWorker | cancelWorker =>
    exact .inr fun s => onlyFetches_of_drifts (s.drifts_run _ rfl)
  | _ => exact .inr fun s => of_eq rfl rfl

/-- A check leaves the reloader alone and makes the requests of the table. -/
theorem run_check_calls (s : Service) (c : Check) (ctx : Context) :
    (s.run (c.command ctx)).2.reloader = s.reloader ∧
      (s.run (c.command ctx)).2.journal.calls = s.journal.calls ++ c.calls s.backend ctx := by
  rw [s.run_check, ← c.calls_ruling s.policy]
  exact ⟨rfl, rfl⟩

/-! ## Runs -/

/-- **Over a run as many requests for rows are made as fetches begin.** -/
theorem count_authorizations_after : ∀ (cs : List Command) (s : Service), ∃ n,
    (s.after cs).reloader.fetches = s.reloader.fetches + n ∧
      (s.after cs).journal.calls.count .authorizations =
        s.journal.calls.count .authorizations + n
  | [], s => ⟨0, rfl, rfl⟩
  | c :: cs, s => by
      obtain ⟨n, hfetches, hcount⟩ := count_authorizations_after cs (s.run c).2
      rw [after_cons]
      obtain ⟨check, ctx, rfl⟩ | honly := check_or_onlyFetches c
      · obtain ⟨hreloader, hcalls⟩ := s.run_check_calls check ctx
        have hnone := check.authorizations_not_mem_calls s.backend ctx
        rw [hreloader] at hfetches
        rw [hcalls, List.count_append, List.count_eq_zero_of_not_mem hnone] at hcount
        exact ⟨n, hfetches, by omega⟩
      · obtain ⟨m, hfetches', hcalls⟩ := honly s
        rw [hcalls, List.count_append, List.count_replicate_self] at hcount
        exact ⟨m + n, by omega, by omega⟩

theorem orderly_ofStores (primaryRealm : String) (store : RuleStore) (admin : AdminStore)
    (directory : Directory) : (ofStores primaryRealm store admin directory).Orderly := by
  constructor <;> simp [ofStores, Reloader.pending]

/-- A run is some moves of the reloader, and so is every command after it. -/
theorem leads_after : ∀ (cs : List Command) {s : Service}, s.Orderly →
    (s.after cs).Orderly ∧ s.reloader.Leads (s.after cs).reloader
  | [], s, h => ⟨h, .refl _⟩
  | c :: cs, s, h => by
      obtain ⟨horderly, hleads⟩ := leads_run h c
      obtain ⟨horderly', hleads'⟩ := leads_after cs horderly
      exact ⟨horderly', hleads.trans hleads'⟩

/-! ## Main statement -/

/-- **Every request is accounted for.** A service is constructed with one request for the rows. At
any later point of any run:

* the rows were asked for as often as a caller took the lock, and every caller took it once for each
  reload that it asked for, save what still waits for the lock;
* a command that is no check asks for rows only, once whenever a caller takes the lock;
* a check leaves the reloader as it is, with its matrix, its number of rows and its last load, and
  makes the requests of the table `Check.calls`, whatever the policy and the services behind it,
  and none of them is for the rows;
* listings and questions about named groups leave everything as it is. -/
theorem requests_are_accounted_for (primaryRealm : String) (store : RuleStore) (admin : AdminStore)
    (directory : Directory) (cs : List Command) :
    let s := ofStores primaryRealm store admin directory
    let t := s.start.2.2.after cs
    s.start.2.2.journal.calls = [.authorizations] ∧
    (∃ ms, s.reloader.play ms = some t.reloader ∧
      t.journal.calls.count .authorizations = ms.countP Reloader.Move.takesLock ∧
      ∀ caller, ms.count (.ask caller) =
        ms.count (.launch caller) + t.reloader.queue.count caller) ∧
    (∀ c : Command, (∀ (check : Check) (ctx : Context), c ≠ check.command ctx) →
      ∃ ms, t.reloader.play ms = some (t.run c).2.reloader ∧
        (t.run c).2.journal.calls =
          t.journal.calls ++ List.replicate (ms.countP Reloader.Move.takesLock) .authorizations) ∧
    (∀ (c : Check) (ctx : Context),
      (t.run (c.command ctx)).2.reloader = t.reloader ∧
      (t.run (c.command ctx)).2.journal.calls = t.journal.calls ++ c.calls t.backend ctx) ∧
    (∀ (c : Check) (p : Policy) (b : Backend) (ctx : Context),
      (c.ruling p b ctx).calls = c.calls b ctx ∧ .authorizations ∉ c.calls b ctx) ∧
    (∀ ctx, (t.run (.listRights ctx)).2 = t) ∧
    (∀ realm groups action targetRealm,
      (t.run (.groupsOnRealm realm groups action targetRealm)).2 = t) ∧
    (∀ realm groups action targetRealm targetGroup,
      (t.run (.groupsOnGroup realm groups action targetRealm targetGroup)).2 = t) := by
  intro s t
  have hs : s.Orderly := orderly_ofStores primaryRealm store admin directory
  -- Construction is a reload, so it is one more command at the front of the run.
  have ht : t = s.after (.reload :: cs) := rfl
  refine ⟨?_, ?_, ?_, ?_, ?_, fun _ => rfl, fun _ _ _ _ => rfl, fun _ _ _ _ _ => rfl⟩
  · obtain ⟨rules, outage, stall⟩ := store
    cases stall <;> cases outage <;> rfl
  · obtain ⟨-, ms, hms⟩ := leads_after (.reload :: cs) hs
    obtain ⟨n, hfetches, hcount⟩ := count_authorizations_after (.reload :: cs) s
    have hlocks := Reloader.fetches_play ms hms
    refine ⟨ms, hms, ?_, ?_⟩
    · have hzero : s.journal.calls.count .authorizations = 0 := rfl
      rw [ht, hcount, hzero]
      omega
    · intro caller
      have hasks := Reloader.count_ask ms hms caller
      have hempty : s.reloader.queue.count caller = 0 := rfl
      rw [ht]
      omega
  · intro c hc
    obtain ⟨check, ctx, heq⟩ | honly := check_or_onlyFetches c
    · exact absurd heq (hc check ctx)
    · obtain ⟨n, hfetches, hcalls⟩ := honly t
      obtain ⟨-, ms, hms⟩ := leads_run (ht ▸ (leads_after (.reload :: cs) hs).1) c
      have hlocks := Reloader.fetches_play ms hms
      obtain rfl : n = ms.countP Reloader.Move.takesLock := by omega
      exact ⟨ms, hms, hcalls⟩
  · exact t.run_check_calls
  · exact fun c p b ctx => ⟨c.calls_ruling p b ctx, c.authorizations_not_mem_calls b ctx⟩

end Service

end RealmAccess
