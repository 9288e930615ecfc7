/-
RealmAccess.Service — the checks and the reloads over services held in memory.

A service holds the reloader, the stores that answer the checks, the
requests for a reload that wait, the workers and a clock. Whatever can run
runs at once: after a request, a wake-up or an answer the queue of reloads
is served until it is empty or an answer is held back. A caller learns how
its reload ended before the next one begins.
-/
import RealmAccess.Directory
import RealmAccess.Ruling.Policy
import RealmAccess.Ruling.Role
import RealmAccess.Worker

namespace RealmAccess

/-- The requests made and the events logged, in order. -/
structure Journal where
  calls : List Call := []
  events : List Event := []
  deriving DecidableEq, Inhabited

/-- A request for a reload, until its outcome is fetched. -/
structure ReloadRequest where
  number : Nat
  /-- How it ended, once it has. -/
  outcome : Option Outcome := none
  deriving DecidableEq, Inhabited

/-- A running service. -/
structure Service where
  primaryRealm : String := defaultPrimaryRealm
  reloader : Reloader := {}
  admin : AdminStore := {}
  directory : Directory := {}
  /-- The requests whose outcome was not fetched yet, oldest first. -/
  requests : List ReloadRequest := []
  /-- The number of requests so far. -/
  asked : Nat := 0
  workers : List Worker := []
  /-- Milliseconds since the start. -/
  now : Nat := 0
  /-- The number of times a worker went to sleep. -/
  sleeps : Nat := 0
  journal : Journal := {}
  deriving DecidableEq, Inhabited

namespace Service

/-- The service over a rule store, admin configurations and an identity provider, before its first
matrix is loaded. -/
def ofStores (primaryRealm : String) (store : RuleStore) (admin : AdminStore) (directory : Directory) :
    Service where
  primaryRealm := primaryRealm
  reloader := { store }
  admin := admin
  directory := directory

/-- The service that settings describe, its rules and admin configurations held in memory. -/
def ofSettings (settings : AuthorizationSettings) (directory : Directory) : Service :=
  ofStores settings.primaryRealm { rules := settings.rules }
    { configurations := settings.adminConfigurations } directory

/-- What the checks are decided by at present. -/
def policy (s : Service) : Policy := ⟨s.reloader.matrix, s.primaryRealm⟩

/-- What the checks ask at present. -/
def backend (s : Service) : Backend := .ofMemory s.directory s.admin

/-- Log an event. -/
def log (s : Service) (event : Event) : Service :=
  { s with journal := { s.journal with events := s.journal.events ++ [event] } }

/-- Record a request. -/
def record (s : Service) (call : Call) : Service :=
  { s with journal := { s.journal with calls := s.journal.calls ++ [call] } }

/-! ## Callers -/

/-- Tell a request how its reload ended. -/
def answerRequest (s : Service) (number : Nat) (outcome : Outcome) : Service :=
  { s with requests := s.requests.map fun r => if r.number = number then { r with outcome } else r }

/-- Let a worker that has nothing under way sleep, or stop if it was cancelled. -/
def settleWorker (s : Service) (index : Nat) : Service :=
  match s.workers[index]? with
  | none => s
  | some w =>
    let s := { s with workers := s.workers.set index (w.settle s.now s.sleeps), sleeps := s.sleeps + 1 }
    if w.cancelled then s.log Worker.stoppedEvent else s

/-- Tell a caller how its reload ended. -/
def resume (s : Service) (caller : Caller) (outcome : Outcome) : Service :=
  match caller with
  | .request number => s.answerRequest number outcome
  | .worker index =>
    (s.log (Worker.ranEvent outcome s.reloader.matrix s.reloader.loads)).settleWorker index

/-! ## Reloads -/

/-- Begin the reload of a caller, leaving others in the queue. -/
def launch (s : Service) (caller : Caller) (others : List Caller) : Service :=
  let s := (s.log Reloader.triggered).record .authorizations
  { s with reloader := s.reloader.launch caller others }

/-- End a fetch with the answer that the store gives now. -/
def land (s : Service) (fetch : Fetch) : Service :=
  let outcome := s.reloader.outcome
  let s := s.log (s.reloader.landing fetch)
  resume { s with reloader := s.reloader.land fetch } fetch.caller outcome

/-- Serve the queue, for at most the given number of reloads, until an answer is held back. -/
def serve : Nat → Service → Service
  | 0, s => s
  | n + 1, s =>
    match s.reloader.flight, s.reloader.queue with
    | none, caller :: others =>
      let fetch := s.reloader.fetchFor caller
      let s := s.launch caller others
      if fetch.stalled then s else serve n (s.land fetch)
    | _, _ => s

/-- Serve the whole queue, until an answer is held back. -/
def settle (s : Service) : Service := serve s.reloader.queue.length s

/-- Let a caller ask for a reload. -/
def ask (s : Service) (caller : Caller) : Service := settle { s with reloader := s.reloader.ask caller }

/-- Let the answer that is held back come, if there is one. -/
def release (s : Service) : Bool × Service :=
  match s.reloader.flight with
  | none => (false, s)
  | some fetch => (true, (s.land fetch).settle)

/-- Request a reload; the outcome is none if it has to wait. -/
def reload (s : Service) : Option Outcome × Service :=
  let number := s.asked
  let s := ask { s with requests := s.requests ++ [⟨number, none⟩], asked := number + 1 } (.request number)
  let outcome := (s.requests.find? (·.number = number)).bind (·.outcome)
  (outcome,
    if outcome.isSome then { s with requests := s.requests.filter (·.number ≠ number) } else s)

/-- Fetch the outcomes of the waiting requests, oldest first; those still waiting stay. -/
def join (s : Service) : List (Option Outcome) × Service :=
  (s.requests.map (·.outcome), { s with requests := s.requests.filter (·.outcome.isNone) })

/-! ## Workers and time -/

/-- Start a worker, perhaps one that is cancelled beforehand. -/
def startWorker (s : Service) (settings : ReloadSettings) (cancelled : Bool) : Service :=
  let index := s.workers.length
  let w : Worker := ⟨settings.intervalSecs, cancelled, .stopped⟩
  let s := { s with workers := s.workers ++ [w] }
  if settings.enabled then (s.log (Worker.startingEvent settings)).settleWorker index
  else s.log Worker.disabledEvent

/-- Cancel a worker, if there is one at the position. -/
def cancelWorker (s : Service) (index : Nat) : Service :=
  match s.workers[index]? with
  | none => s
  | some w =>
    let s := { s with workers := s.workers.set index w.cancel }
    match w.phase with
    | .sleeping _ _ => s.log Worker.stoppedEvent
    | _ => s

/-- Wake a worker, which asks for a reload. -/
def wakeWorker (s : Service) (index : Nat) : Service :=
  match s.workers[index]? with
  | none => s
  | some w => ask { s with workers := s.workers.set index w.wake } (.worker index)

/-- The workers that sleep, with their alarms, by position. -/
def alarms (s : Service) : List (Nat × Nat × Nat) :=
  s.workers.zipIdx.filterMap fun (w, index) => w.alarm?.map fun (wake, turn) => (wake, turn, index)

/-- When the next worker wakes after the given time. -/
def nextAlarm? (s : Service) (now : Nat) : Option Nat :=
  ((s.alarms.map (·.1)).filter (now < ·)).min?

/-- The workers that wake at the given time, in the order in which they went to sleep. -/
def wakingAt (s : Service) (time : Nat) : List Nat :=
  ((s.alarms.filter (·.1 = time)).mergeSort fun a b => a.2.1 ≤ b.2.1).map (·.2.2)

/-- Let time pass from one moment to another, waking every worker at its time. -/
def runUntil (target now : Nat) (s : Service) : Service :=
  match s.nextAlarm? now with
  | none => { s with now := target }
  | some time =>
    if _ : now < time ∧ time ≤ target then
      runUntil target time ((s.wakingAt time).foldl wakeWorker { s with now := time })
    else { s with now := target }
termination_by target - now
decreasing_by omega

/-- Let some milliseconds pass. -/
def advance (s : Service) (millis : Nat) : Service := runUntil (s.now + millis) s.now s

end Service

end RealmAccess
