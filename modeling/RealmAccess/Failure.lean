/-
RealmAccess.Failure — how the services behind the checks fail.

The identity provider answers with an error status, cannot be reached, or
sends something unexpected; the rule store has only an internal error.
Only an answer with a status carries one.
-/
import RealmAccess.Http.Status

namespace RealmAccess

/-- Why the identity provider gave no answer. -/
inductive IdentityFailure where
  /-- It answered with an error status. -/
  | http (status : Nat) (detail : String)
  /-- It could not be reached. -/
  | transport (detail : String)
  /-- Its answer could not be understood. -/
  | invalidResponse (detail : String)
  deriving DecidableEq, Inhabited

/-- Why a store gave no answer. -/
structure StoreFailure where
  detail : String
  deriving DecidableEq, Inhabited

/-- The message of a store failure. -/
def StoreFailure.message (f : StoreFailure) : String := "Internal error: " ++ f.detail

/-- The message of an identity provider failure. -/
def IdentityFailure.message : IdentityFailure → String
  | .http status detail => "Identity provider returned " ++ Http.statusText status ++ ": " ++ detail
  | .transport detail => "Identity provider unreachable: " ++ detail
  | .invalidResponse detail => "Unexpected identity provider response: " ++ detail

/-- A failure of any service behind the checks. -/
inductive Failure where
  | identity (failure : IdentityFailure)
  | store (failure : StoreFailure)
  deriving DecidableEq, Inhabited

namespace Failure

/-- The message of a failure. -/
def message : Failure → String
  | .identity failure => failure.message
  | .store failure => failure.message

/-- The HTTP status that a failure carries. -/
def status? : Failure → Option Nat
  | .identity (.http status _) => some status
  | _ => none

end Failure

end RealmAccess
