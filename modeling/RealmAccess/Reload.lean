/-
RealmAccess.Reload — replacing the matrix by one built from fresh rows.

Reloads wait for each other in a queue. The first in the queue begins by
fetching all rows, which are those in the store at that moment; while its
answer is held back nothing else begins. When the answer comes, either the
store has failed and the matrix stays, or a whole new matrix takes its
place. So one fetch at most is under way, and matrices are installed in
the order in which their rows were read.
-/
import RealmAccess.Matrix
import RealmAccess.Event
import RealmAccess.Store

namespace RealmAccess

/-- Who asked for a reload. -/
inductive Caller where
  /-- A request, by its number. -/
  | request (number : Nat)
  /-- A periodic worker, by its position. -/
  | worker (index : Nat)
  deriving DecidableEq, Inhabited

/-- How a reload ended. -/
inductive Outcome where
  | loaded
  | failed (failure : StoreFailure)
  deriving DecidableEq, Inhabited

/-- A fetch under way. -/
structure Fetch where
  caller : Caller
  /-- The rows as they were read. -/
  rows : List Rule
  /-- Whether the answer is held back. -/
  stalled : Bool
  deriving DecidableEq

/-- The current matrix with everything that replaces it. -/
structure Reloader where
  store : RuleStore := {}
  matrix : Matrix := ∅
  /-- The number of matrices installed so far. -/
  loads : Nat := 0
  /-- The number of fetches begun so far. -/
  fetches : Nat := 0
  /-- The callers whose reload has not begun, in the order of asking. -/
  queue : List Caller := []
  /-- The fetch that has begun and not ended. -/
  flight : Option Fetch := none
  deriving DecidableEq, Inhabited

namespace Reloader

/-- Ask for a reload. -/
def ask (r : Reloader) (caller : Caller) : Reloader := { r with queue := r.queue ++ [caller] }

/-- The event of a reload that begins. -/
def triggered : Event := ⟨.info, "Authorizations reload triggered", []⟩

/-- The event of a new matrix. -/
def reloaded (m : Matrix) : Event :=
  ⟨.info, "Authorizations reloaded", [("realm_count", .count m.realmCount), ("rule_count", .count m.ruleCount)]⟩

/-- The event of a failed fetch. -/
def keptPrevious (failure : StoreFailure) : Event :=
  ⟨.warn, "Failed to reload authorizations, keeping previous matrix", [("error", .text failure.message)]⟩

/-- The fetch of a caller, made now. -/
def fetchFor (r : Reloader) (caller : Caller) : Fetch := ⟨caller, r.store.rules, r.store.stallNext⟩

/-- Begin the reload of a caller, leaving others in the queue. -/
def launch (r : Reloader) (caller : Caller) (others : List Caller) : Reloader :=
  { r with
    store := { r.store with stallNext := false }
    fetches := r.fetches + 1
    queue := others
    flight := some (r.fetchFor caller) }

/-- Install a matrix. -/
def install (r : Reloader) (m : Matrix) : Reloader := { r with matrix := m, loads := r.loads + 1, flight := none }

/-- How a fetch ends if its answer comes now. -/
def outcome (r : Reloader) : Outcome :=
  match r.store.outage with
  | some failure => .failed failure
  | none => .loaded

/-- End a fetch with an outcome. -/
def conclude (r : Reloader) (fetch : Fetch) : Outcome → Reloader
  | .failed _ => { r with flight := none }
  | .loaded => r.install (Matrix.load fetch.rows)

/-- What is there once the answer to a fetch came. -/
def land (r : Reloader) (fetch : Fetch) : Reloader := r.conclude fetch r.outcome

/-- The event of the answer to a fetch. -/
def landing (r : Reloader) (fetch : Fetch) : Event :=
  match r.outcome with
  | .failed failure => keptPrevious failure
  | .loaded => reloaded (Matrix.load fetch.rows)

end Reloader

end RealmAccess
