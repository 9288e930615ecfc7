/-
RealmAccess.Denial — why an operation is not allowed.

A denial proper says nothing about its cause. A failure of a service behind
a check becomes such a denial too and leaves its text in the log only; the
one exception is a refusal of the actor's own credentials, which is handed
on so that the actor can be asked to log in again.
-/
import RealmAccess.Context
import RealmAccess.Event
import RealmAccess.Failure

namespace RealmAccess

/-- Why an operation is not allowed. -/
inductive Denial where
  /-- The operation is not permitted. -/
  | forbidden
  /-- The identity provider refused the actor's credentials. -/
  | unauthorized (failure : Failure)
  /-- The request does not say who is acting. -/
  | missingContext (value : ContextValue)
  deriving DecidableEq

/-- The outcome of a check. -/
inductive Verdict where
  | allow
  | deny (cause : Denial)
  deriving DecidableEq

namespace Verdict

variable {allowed : Prop} [Decidable allowed] {cause : Denial}

theorem ite_eq_allow : (if allowed then Verdict.allow else .deny cause) = .allow ↔ allowed := by
  split <;> simp [*]

theorem ite_eq_deny :
    (if allowed then Verdict.allow else .deny cause) = .deny cause ↔ ¬ allowed := by
  split <;> simp [*]

end Verdict

namespace Denial

/-- The message of a denial. -/
def message : Denial → String
  | .forbidden => "ForbiddenError: Operation not permitted."
  | .unauthorized failure => failure.message
  | .missingContext value => value.missingMessage

/-- Whether the operation is refused for the actor, whoever that is. -/
def isForbidden : Denial → Bool
  | .forbidden => true
  | _ => false

/-- The denial for a failed service. -/
def ofFailure (failure : Failure) : Denial :=
  if failure.status? = some Http.unauthorized then .unauthorized failure else .forbidden

/-- What the log says about a failed service. -/
def eventsOfFailure (failure : Failure) : List Event :=
  if failure.status? = some Http.unauthorized then []
  else [⟨.debug, "Collaborator failure reported as forbidden", [("error", .text failure.message)]⟩]

end Denial

end RealmAccess
