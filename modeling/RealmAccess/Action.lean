/-
RealmAccess.Action — the actions that a service authorizes.

An action has a scope, which decides the targets that its rules carry. The
registry holds the declared actions by name; a name is taken by the first
registration and a later one is refused.
-/
import RealmAccess.Table

namespace RealmAccess

/-- What an action operates on. -/
inductive Scope where
  /-- No realm: rules target the realm `*` and no group. -/
  | global
  /-- A realm: rules have a target realm and no group. -/
  | realm
  /-- Groups or users of a realm: rules have both targets. -/
  | group
  deriving DecidableEq, Inhabited

/-- A declared action. -/
structure Action where
  name : String
  scope : Scope
  deriving DecidableEq, Inhabited

/-- The declared actions by name. -/
structure Registry where
  scopes : Table String Scope := ∅
  deriving DecidableEq

namespace Registry

/-- The registry without actions. -/
def empty : Registry := ⟨∅⟩

instance : EmptyCollection Registry := ⟨empty⟩
instance : Inhabited Registry := ⟨empty⟩

/-- The registered action of that name. -/
def get? (r : Registry) (name : String) : Option Action :=
  (r.scopes.find? name).map fun scope => ⟨name, scope⟩

/-- The registered names, in ascending order. -/
def names (r : Registry) : List String := r.scopes.keys

/-- The number of registered actions. -/
def size (r : Registry) : Nat := r.scopes.size

/-- Whether no action is registered. -/
def isEmpty (r : Registry) : Bool := r.scopes.isEmpty

/-- Register an action, unless its name is taken. -/
def register? (r : Registry) (a : Action) : Option Registry :=
  match r.scopes.find? a.name with
  | some _ => none
  | none => some ⟨r.scopes.insert a.name a.scope⟩

end Registry

end RealmAccess
