/-
RealmAccess.Store — rules and admin configurations held in memory.

Both stores can have an outage, during which nothing can be read; what is
written during one is kept. The rule store can also be told to hold its
next answer back.
-/
import RealmAccess.Failure
import RealmAccess.Role
import RealmAccess.Rule
import RealmAccess.Table

namespace RealmAccess

/-- The authorization rows, replaced as a whole. -/
structure RuleStore where
  rules : List Rule := []
  /-- Why rows cannot be read at present, if they cannot. -/
  outage : Option StoreFailure := none
  /-- Whether the next answer is held back once it is asked for. -/
  stallNext : Bool := false
  deriving DecidableEq, Inhabited

/-- The admin configurations by realm. -/
structure AdminStore where
  configurations : Table String AdminConfiguration := ∅
  /-- Why configurations cannot be read at present, if they cannot. -/
  outage : Option StoreFailure := none
  deriving DecidableEq, Inhabited

namespace AdminStore

/-- The configuration of a realm; a realm without one restricts nothing. -/
def configuration (s : AdminStore) (realm : String) : AdminConfiguration :=
  (s.configurations.find? realm).getD .unrestricted

/-- Set the configuration of a realm. -/
def set (s : AdminStore) (realm : String) (c : AdminConfiguration) : AdminStore :=
  { s with configurations := s.configurations.insert realm c }

/-- What the store answers when asked for a realm. -/
def answer (s : AdminStore) (realm : String) : Except StoreFailure AdminConfiguration :=
  match s.outage with
  | some failure => .error failure
  | none => .ok (s.configuration realm)

end AdminStore

end RealmAccess
