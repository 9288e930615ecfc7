/-
RealmAccess.Proofs.Service.Calm — a service in which nothing is under way.

A service is calm when no reload waits, no fetch is held back and no worker
runs. Every command but two keeps it so: `stallNext`, which asks for an
answer to be held back, and `startWorker`. On a calm service a reload is
therefore over when its command is. `reload_of_calm` says how it is answered
and what it leaves, and `run_of_calm` puts it beside the other commands,
none of which touches the matrix.
-/
import RealmAccess.Service.Command

namespace RealmAccess

/-- Whether a command lets what it starts come to an end at once. -/
def Command.immediate : Command → Bool
  | .stallNext => false
  | .startWorker _ _ => false
  | _ => true

/-- No reload waits, and no answer is or will be held back. -/
structure Reloader.Idle (r : Reloader) : Prop where
  flight : r.flight = none
  queue : r.queue = []
  stallNext : r.store.stallNext = false

namespace Reloader

/-- An idle reloader after one whole reload. -/
def renewed (r : Reloader) : Reloader :=
  match r.outcome with
  | .failed _ => { r with fetches := r.fetches + 1 }
  | .loaded =>
    { r with
      matrix := Matrix.load r.store.rules
      loads := r.loads + 1
      fetches := r.fetches + 1 }

/-- A reload that is asked for, begun and ended in one go renews an idle reloader. -/
theorem land_launch {r : Reloader} (h : r.Idle) (caller : Caller) :
    ((r.ask caller).launch caller []).land (r.fetchFor caller) = r.renewed := by
  obtain ⟨⟨rules, outage, stall⟩, matrix, loads, fetches, queue, flight⟩ := r
  obtain ⟨rfl, rfl, rfl⟩ := h
  cases outage <;> rfl

theorem Idle.renewed {r : Reloader} (h : r.Idle) : r.renewed.Idle := by
  unfold Reloader.renewed
  split <;> exact ⟨h.flight, h.queue, h.stallNext⟩

/-- What an immediate command leaves of an idle reloader. -/
def handle (r : Reloader) : Command → Reloader
  | .setRules rules => { r with store := { r.store with rules } }
  | .setRuleOutage outage => { r with store := { r.store with outage } }
  | .reload => r.renewed
  | _ => r

end Reloader

namespace Service

/-- The service once it has carried out some commands, from the first on. -/
def after (s : Service) (cs : List Command) : Service := cs.foldl (fun s c => (s.run c).2) s

@[simp] theorem after_nil (s : Service) : s.after [] = s := rfl

@[simp] theorem after_cons (s : Service) (c : Command) (cs : List Command) :
    s.after (c :: cs) = (s.run c).2.after cs := rfl

/-- Nothing is under way: no reload waits or is held back, and no worker runs. -/
structure Calm (s : Service) : Prop where
  idle : s.reloader.Idle
  requests : s.requests = []
  workers : s.workers = []

theorem calm_ofStores (primaryRealm : String) (rules : List Rule) (outage : Option StoreFailure)
    (admin : AdminStore) (directory : Directory) :
    (ofStores primaryRealm ⟨rules, outage, false⟩ admin directory).Calm :=
  ⟨⟨rfl, rfl, rfl⟩, rfl, rfl⟩

/-! ## A reload -/

/-- Where no reload waits, a caller's reload begins and ends as soon as it is asked for. -/
theorem ask_of_idle {s : Service} (h : s.reloader.Idle) (caller : Caller) :
    s.ask caller = (launch { s with reloader := s.reloader.ask caller } caller []).land
      (s.reloader.fetchFor caller) := by
  have hqueue : (s.reloader.ask caller).queue = [caller] := by simp [Reloader.ask, h.queue]
  have hflight : (s.reloader.ask caller).flight = none := h.flight
  have hfetch : (s.reloader.ask caller).fetchFor caller = s.reloader.fetchFor caller := rfl
  have hstalled : (s.reloader.fetchFor caller).stalled = false := h.stallNext
  simp only [ask, settle, hqueue, List.length_singleton, serve, hflight, hfetch, hstalled]
  simp

/-- A request that is served at once: it is the only one that waits, and it has its outcome. -/
theorem ask_request {s : Service} (h : s.reloader.Idle) (number : Nat)
    (hr : s.requests = [⟨number, none⟩]) :
    ∃ journal, s.ask (.request number) =
      { s with
        reloader := s.reloader.renewed
        requests := [⟨number, some s.reloader.outcome⟩]
        journal } := by
  rw [ask_of_idle h, land, launch]
  have houtcome : ((s.reloader.ask (.request number)).launch (.request number) []).outcome =
      s.reloader.outcome := rfl
  have hcaller : (s.reloader.fetchFor (.request number)).caller = .request number := rfl
  simp only [log, record, resume, answerRequest, hcaller, houtcome, hr,
    Reloader.land_launch h, List.map_cons, List.map_nil, if_true]
  exact ⟨_, rfl⟩

/-- On a calm service a request is answered by the command that makes it, and leaves nothing
behind but the renewed reloader, its number and its journal. -/
theorem reload_of_calm {s : Service} (h : s.Calm) :
    ∃ journal, s.reload = (some s.reloader.outcome,
      { s with reloader := s.reloader.renewed, asked := s.asked + 1, journal }) := by
  obtain ⟨journal, hask⟩ := ask_request (s := { s with
    requests := s.requests ++ [⟨s.asked, none⟩], asked := s.asked + 1 }) h.idle s.asked
    (by rw [h.requests]; rfl)
  refine ⟨journal, ?_⟩
  rw [reload, hask]
  simp [h.requests]

/-! ## The other commands -/

/-- Without workers no alarm is set. -/
theorem nextAlarm?_of_calm {s : Service} (h : s.Calm) (now : Nat) : s.nextAlarm? now = none := by
  simp [nextAlarm?, alarms, h.workers]

/-- Without workers time passes and does nothing else. -/
theorem advance_of_calm {s : Service} (h : s.Calm) (millis : Nat) :
    s.advance millis = { s with now := s.now + millis } := by
  rw [advance, runUntil, nextAlarm?_of_calm h]

theorem cancelWorker_of_calm {s : Service} (h : s.Calm) (index : Nat) :
    s.cancelWorker index = s := by
  simp [cancelWorker, h.workers]

theorem release_of_calm {s : Service} (h : s.Calm) : s.release = (false, s) := by
  simp [release, h.idle.flight]

theorem join_of_calm {s : Service} (h : s.Calm) : s.join = ([], s) := by
  have hkept : s.requests.filter (·.outcome.isNone) = s.requests := by
    rw [h.requests]; rfl
  rw [join, hkept]
  show (s.requests.map (·.outcome), s) = ([], s)
  rw [h.requests, List.map_nil]

/-! ## Every command -/

/-- **What an immediate command does to a calm service**: it stays calm and keeps its primary
realm, and its reloader becomes what `Reloader.handle` says. -/
theorem run_of_calm {s : Service} (h : s.Calm) {c : Command} (hc : c.immediate = true) :
    (s.run c).2.Calm ∧ (s.run c).2.primaryRealm = s.primaryRealm ∧
      (s.run c).2.reloader = s.reloader.handle c := by
  cases c with
  | reload =>
    obtain ⟨journal, hreload⟩ := reload_of_calm h
    rw [run, hreload]
    exact ⟨⟨h.idle.renewed, h.requests, h.workers⟩, rfl, rfl⟩
  | setRules rules =>
    exact ⟨⟨⟨h.idle.flight, h.idle.queue, h.idle.stallNext⟩, h.requests, h.workers⟩, rfl, rfl⟩
  | setRuleOutage outage =>
    exact ⟨⟨⟨h.idle.flight, h.idle.queue, h.idle.stallNext⟩, h.requests, h.workers⟩, rfl, rfl⟩
  | release =>
    rw [run, release_of_calm h]
    exact ⟨h, rfl, rfl⟩
  | join =>
    rw [run, join_of_calm h]
    exact ⟨h, rfl, rfl⟩
  | cancelWorker index =>
    rw [run, cancelWorker_of_calm h]
    exact ⟨h, rfl, rfl⟩
  | advance millis =>
    rw [run, advance_of_calm h]
    exact ⟨⟨h.idle, h.requests, h.workers⟩, rfl, rfl⟩
  | stallNext => simp [Command.immediate] at hc
  | startWorker settings cancelled => simp [Command.immediate] at hc
  | _ => exact ⟨⟨h.idle, h.requests, h.workers⟩, rfl, rfl⟩

end Service

end RealmAccess
