/-
RealmAccess.Proofs.Service.LastRead — a service answers by the rows that it
read last.

`Ledger` is all that matters of a run: the rows the store holds, whether
they can be read, the rows of the last fetch that succeeded, and how many
have. `Ledger.next` follows it through a run without a matrix, a queue or a
flight. `follows_after` is the simulation: after any immediate commands the
matrix is the one that the rows read last give, and no other.

`answers_by_rows_read_last` is what a caller sees of it. At every point of a
run the service decides by the matrix of those rows, and so agrees with one
started on them, whatever is asked; a failed reload hands the store's failure
on and changes nothing, a successful one keeps nothing of older rows, and a
store that is changed without a reload goes unnoticed.
-/
import RealmAccess.Proofs.Ruling.Agreement
import RealmAccess.Proofs.Service.Calm

namespace RealmAccess

/-! ## The ledger of a run -/

/-- What a run comes down to. -/
structure Ledger where
  /-- The rows in the store. -/
  rules : List Rule
  /-- Why they cannot be read at present, if they cannot. -/
  outage : Option StoreFailure
  /-- The rows that the last successful fetch returned. -/
  lastRead : List Rule
  /-- The number of successful fetches. -/
  reads : Nat

namespace Ledger

/-- The ledger after a command. -/
def next (l : Ledger) : Command → Ledger
  | .setRules rules => { l with rules }
  | .setRuleOutage outage => { l with outage }
  | .reload =>
    match l.outage with
    | some _ => l
    | none => { l with lastRead := l.rules, reads := l.reads + 1 }
  | _ => l

/-- The ledger after some commands, from the first on. -/
def after (l : Ledger) (cs : List Command) : Ledger := cs.foldl next l

/-- The ledger when a service was started on some rows. -/
def opening (rules : List Rule) : Ledger := ⟨rules, none, rules, 1⟩

end Ledger

/-- A reloader that is what a ledger says. -/
structure Reloader.Follows (r : Reloader) (l : Ledger) : Prop where
  rules : r.store.rules = l.rules
  outage : r.store.outage = l.outage
  matrix : r.matrix = Matrix.load l.lastRead
  loads : r.loads = l.reads

/-- One command keeps reloader and ledger together. -/
theorem Reloader.Follows.handle {r : Reloader} {l : Ledger} (h : r.Follows l) (c : Command) :
    (r.handle c).Follows (l.next c) := by
  cases c with
  | setRules rules => exact ⟨rfl, h.outage, h.matrix, h.loads⟩
  | setRuleOutage outage => exact ⟨h.rules, rfl, h.matrix, h.loads⟩
  | reload =>
    cases houtage : l.outage with
    | some failure =>
      have hstore : r.store.outage = some failure := h.outage.trans houtage
      simp only [Reloader.handle, Reloader.renewed, Reloader.outcome, hstore, Ledger.next, houtage]
      exact ⟨h.rules, hstore.trans houtage.symm, h.matrix, h.loads⟩
    | none =>
      have hstore : r.store.outage = none := h.outage.trans houtage
      simp only [Reloader.handle, Reloader.renewed, Reloader.outcome, hstore, Ledger.next, houtage]
      refine ⟨h.rules, hstore, ?_, ?_⟩
      · rw [← h.rules]
      · rw [← h.loads]
  | _ => exact h

namespace Service

/-! ## The simulation -/

/-- **A run of immediate commands is followed by the ledger.** The service stays calm, keeps its
primary realm, and its reloader is what the ledger says. -/
theorem follows_after : ∀ (cs : List Command) {s : Service} {l : Ledger}, s.Calm →
    s.reloader.Follows l → (∀ c ∈ cs, c.immediate = true) →
    (s.after cs).Calm ∧ (s.after cs).primaryRealm = s.primaryRealm ∧
      (s.after cs).reloader.Follows (l.after cs)
  | [], _, _, hcalm, hfollows, _ => ⟨hcalm, rfl, hfollows⟩
  | c :: cs, s, l, hcalm, hfollows, himm => by
      obtain ⟨hc, hcs⟩ := List.forall_mem_cons.mp himm
      obtain ⟨hcalm', hrealm, hreloader⟩ := run_of_calm hcalm hc
      have hfollows' : (s.run c).2.reloader.Follows (l.next c) := by
        rw [hreloader]
        exact hfollows.handle c
      -- Calm is what the next command needs, so both are carried along.
      obtain ⟨h1, h2, h3⟩ := follows_after cs hcalm' hfollows' hcs
      exact ⟨h1, h2.trans hrealm, h3⟩

/-! ## Construction -/

theorem start_of_calm {s : Service} (h : s.Calm) :
    s.start.1 = s.reloader.outcome ∧ s.start.2.2.Calm ∧
      s.start.2.2.primaryRealm = s.primaryRealm ∧ s.start.2.2.reloader = s.reloader.renewed := by
  obtain ⟨journal, hreload⟩ := reload_of_calm h
  rw [start, hreload]
  exact ⟨rfl, ⟨h.idle.renewed, h.requests, h.workers⟩, rfl, rfl⟩

/-- The service started anew on some rows, over the same stores and identity provider. -/
def startedOn (s : Service) (rows : List Rule) : Service :=
  (ofStores s.primaryRealm { rules := rows } s.admin s.directory).start.2.2

/-- Over a store in order a service comes to be, and decides by the store's rows. -/
theorem start_ofStores (primaryRealm : String) (rules : List Rule) (admin : AdminStore)
    (directory : Directory) :
    (ofStores primaryRealm { rules } admin directory).start.1 = .loaded ∧
      (ofStores primaryRealm { rules } admin directory).start.2.2.policy =
        ⟨Matrix.load rules, primaryRealm⟩ := by
  obtain ⟨houtcome, -, hrealm, hreloader⟩ :=
    start_of_calm (calm_ofStores primaryRealm rules none admin directory)
  refine ⟨houtcome, ?_⟩
  rw [policy, hrealm, hreloader]
  rfl

theorem policy_startedOn (s : Service) (rows : List Rule) :
    (s.startedOn rows).policy = ⟨Matrix.load rows, s.primaryRealm⟩ :=
  (start_ofStores s.primaryRealm rows s.admin s.directory).2

/-- A service whose reloader follows a ledger decides by the rows that were read last. -/
theorem policy_of_follows {s : Service} {l : Ledger} (h : s.reloader.Follows l) :
    s.policy = ⟨Matrix.load l.lastRead, s.primaryRealm⟩ := by
  rw [policy, h.matrix]

/-! ## One command -/

theorem policy_run {s : Service} (h : s.Calm) {c : Command} (hc : c.immediate = true) :
    (s.run c).2.policy = ⟨(s.reloader.handle c).matrix, s.primaryRealm⟩ := by
  obtain ⟨-, hrealm, hreloader⟩ := run_of_calm h hc
  rw [policy, hrealm, hreloader]

theorem answer_reload {s : Service} (h : s.Calm) :
    (s.run .reload).1 = .reload (some s.reloader.outcome) := by
  obtain ⟨journal, hreload⟩ := reload_of_calm h
  rw [run, hreload]
  rfl

/-- A reload during an outage returns the store's failure and leaves matrix and loads alone. -/
theorem run_reload_of_outage {s : Service} (h : s.Calm) {failure : StoreFailure}
    (houtage : s.reloader.store.outage = some failure) :
    (s.run .reload).1 = .reload (some (.failed failure)) ∧
      (s.run .reload).2.policy = s.policy ∧
      (s.run .reload).2.reloader.loads = s.reloader.loads := by
  obtain ⟨-, -, hreloader⟩ := run_of_calm h (c := .reload) rfl
  have houtcome : s.reloader.outcome = .failed failure := by simp [Reloader.outcome, houtage]
  have hhandle : s.reloader.handle .reload =
      { s.reloader with fetches := s.reloader.fetches + 1 } := by
    simp only [Reloader.handle, Reloader.renewed, houtcome]
  refine ⟨by rw [answer_reload h, houtcome], ?_, by rw [hreloader, hhandle]⟩
  rw [policy_run h rfl, hhandle]
  rfl

/-- A reload with the store in order leaves the matrix of the store's rows. -/
theorem run_reload_of_no_outage {s : Service} (h : s.Calm)
    (houtage : s.reloader.store.outage = none) :
    (s.run .reload).1 = .reload (some .loaded) ∧
      (s.run .reload).2.policy = ⟨Matrix.load s.reloader.store.rules, s.primaryRealm⟩ := by
  have houtcome : s.reloader.outcome = .loaded := by simp [Reloader.outcome, houtage]
  refine ⟨by rw [answer_reload h, houtcome], ?_⟩
  rw [policy_run h rfl]
  simp only [Reloader.handle, Reloader.renewed, houtcome]

/-- Without a reload neither matrix nor loads change. -/
theorem run_of_ne_reload {s : Service} (h : s.Calm) {c : Command} (hc : c.immediate = true)
    (hne : c ≠ .reload) :
    (s.run c).2.policy = s.policy ∧ (s.run c).2.reloader.loads = s.reloader.loads := by
  obtain ⟨-, -, hreloader⟩ := run_of_calm h hc
  have hhandle : (s.reloader.handle c).matrix = s.reloader.matrix ∧
      (s.reloader.handle c).loads = s.reloader.loads := by
    cases c with
    | reload => exact absurd rfl hne
    | _ => exact ⟨rfl, rfl⟩
  rw [policy_run h hc, hreloader, hhandle.1, hhandle.2]
  exact ⟨rfl, rfl⟩

/-! ## Main statement -/

/-- **A service answers by the rows that it read last.** It comes to be unless the first fetch
fails, and then the failure is the store's. From then on, after any immediate commands, it decides by
the matrix of the rows of the last successful fetch, and agrees with a service started on them. A
failed reload returns the store's failure and changes neither an answer nor the time of the last
load; a successful one leaves what a start on the store's rows gives; nothing else changes an answer
at all. -/
theorem answers_by_rows_read_last (primaryRealm : String) (rules : List Rule)
    (outage : Option StoreFailure) (admin : AdminStore) (directory : Directory) :
    let s := ofStores primaryRealm ⟨rules, outage, false⟩ admin directory
    (∀ failure, s.start.1 = .failed failure ↔ outage = some failure) ∧
    (s.start.1 = .loaded ↔ outage = none) ∧
    (outage = none → ∀ cs : List Command, (∀ c ∈ cs, c.immediate = true) →
      let t := s.start.2.2.after cs
      let l := (Ledger.opening rules).after cs
      t.primaryRealm = primaryRealm ∧
      t.reloader.store = ⟨l.rules, l.outage, false⟩ ∧
      t.reloader.loads = l.reads ∧
      t.policy = ⟨Matrix.load l.lastRead, primaryRealm⟩ ∧
      t.policy.Agrees (t.startedOn l.lastRead).policy ∧
      (∀ failure, l.outage = some failure →
        (t.run .reload).1 = .reload (some (.failed failure)) ∧
        (t.run .reload).2.policy.Agrees t.policy ∧
        (t.run .reload).2.reloader.loads = t.reloader.loads) ∧
      (l.outage = none →
        (t.run .reload).1 = .reload (some .loaded) ∧
        (t.run .reload).2.policy.Agrees (t.startedOn l.rules).policy) ∧
      (∀ c : Command, c.immediate = true → c ≠ .reload →
        (t.run c).2.policy.Agrees t.policy ∧
        (t.run c).2.reloader.loads = t.reloader.loads)) := by
  intro s
  have hcalm : s.Calm := calm_ofStores primaryRealm rules outage admin directory
  obtain ⟨houtcome, hcalm', hrealm', hreloader'⟩ := start_of_calm hcalm
  refine ⟨?_, ?_, ?_⟩
  · intro failure
    rw [houtcome]
    cases outage <;> simp [s, ofStores, Reloader.outcome]
  · rw [houtcome]
    cases outage <;> simp [s, ofStores, Reloader.outcome]
  · intro hnone cs hcs t l
    subst hnone
    have hopening : s.start.2.2.reloader.Follows (Ledger.opening rules) := by
      rw [hreloader']
      exact ⟨rfl, rfl, rfl, rfl⟩
    obtain ⟨ht, hkept, hfollows⟩ := follows_after cs hcalm' hopening hcs
    have hrealm : t.primaryRealm = primaryRealm := hkept.trans hrealm'
    have hmatrix : t.policy = ⟨Matrix.load l.lastRead, primaryRealm⟩ := by
      rw [policy_of_follows hfollows, hrealm]
    have hfresh : t.policy = (t.startedOn l.lastRead).policy := by
      rw [hmatrix, policy_startedOn, hrealm]
    have hstore : t.reloader.store = ⟨l.rules, l.outage, false⟩ := by
      rw [← hfollows.rules, ← hfollows.outage, ← ht.idle.stallNext]
    refine ⟨hrealm, hstore, hfollows.loads, hmatrix, .of_eq hfresh, ?_, ?_, ?_⟩
    · intro failure hfailure
      obtain ⟨hanswer, hpolicy, hloads⟩ :=
        run_reload_of_outage ht (hfollows.outage.trans hfailure)
      exact ⟨hanswer, .of_eq hpolicy, hloads⟩
    · intro hgood
      obtain ⟨hanswer, hpolicy⟩ := run_reload_of_no_outage ht (hfollows.outage.trans hgood)
      refine ⟨hanswer, .of_eq ?_⟩
      rw [hpolicy, policy_startedOn, hstore]
    · intro c hc hne
      obtain ⟨hpolicy, hloads⟩ := run_of_ne_reload ht hc hne
      exact ⟨.of_eq hpolicy, hloads⟩

/-- An outage in the middle of a run: the revoked right is still there after the reload that failed,
and gone after the one that succeeds. -/
theorem revoked_right_outlives_outage :
    let rules : List Rule := [⟨"master", "toe", "GetRealm", some "*", none⟩]
    let s := (ofStores "master" ⟨rules, none, false⟩ {} {}).start.2.2
    let outage : List Command := [.setRules [], .setRuleOutage (some ⟨"down"⟩), .reload]
    let down := s.after outage
    let up := s.after (outage ++ [.setRuleOutage none, .reload])
    (down.run .reload).1 = .reload (some (.failed ⟨"down"⟩)) ∧
      down.policy = ⟨Matrix.load rules, "master"⟩ ∧
      down.policy.groupsOnRealm "master" ["toe"] "GetRealm" "dep" = .allow ∧
      up.policy = ⟨Matrix.load [], "master"⟩ ∧
      up.policy.groupsOnRealm "master" ["toe"] "GetRealm" "dep" = .deny .forbidden := by
  intro rules s outage down up
  obtain ⟨-, -, hruns⟩ := answers_by_rows_read_last "master" rules none {} {}
  obtain ⟨-, -, -, hold, -, hfailed, -⟩ := hruns rfl outage (by decide)
  obtain ⟨-, -, -, hnew, -⟩ := hruns rfl (outage ++ [.setRuleOutage none, .reload]) (by decide)
  have hdown : down.policy = ⟨Matrix.load rules, "master"⟩ := hold
  have hup : up.policy = ⟨Matrix.load [], "master"⟩ := hnew
  refine ⟨(hfailed ⟨"down"⟩ rfl).1, hdown, ?_, hup, ?_⟩
  · rw [hdown]
    decide
  · rw [hup]
    decide

end Service

end RealmAccess
