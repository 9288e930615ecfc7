/-
RealmAccess.Ruling — the outcome of a check with everything it did.

A ruling holds the verdict, the requests that were made to reach it and
what goes to the log, each in order. The combinators here are the only ways
in which a check ends early: a value missing from the context, or a failed
request, whose verdict `Denial.ofFailure` gives.
-/
import RealmAccess.Backend
import RealmAccess.Denial

namespace RealmAccess

/-- A verdict, the requests made on the way to it and the events logged. -/
structure Ruling where
  verdict : Verdict
  calls : List Call := []
  events : List Event := []
  deriving DecidableEq

namespace Ruling

/-- The operation is allowed; nothing is logged. -/
def allow : Ruling := ⟨.allow, [], []⟩

/-- The context lacks a value; nothing is logged. -/
def missing (value : ContextValue) : Ruling := ⟨.deny (.missingContext value), [], []⟩

/-- The operation is refused, and the log says what was asked by whom. -/
def refuse (ctx : Context) (message : String) (fields : List (String × EventValue)) : Ruling :=
  ⟨.deny .forbidden, [],
    [⟨.info, message, fields ++ Event.optionalText "correlation_id" ctx.correlationId⟩]⟩

/-- Allow an operation, or refuse it with an event. -/
def allowIf (allowed : Bool) (ctx : Context) (message : String) (fields : List (String × EventValue)) :
    Ruling :=
  if allowed then allow else refuse ctx message fields

/-- A service failed. -/
def failed (failure : Failure) : Ruling :=
  ⟨.deny (Denial.ofFailure failure), [], Denial.eventsOfFailure failure⟩

/-- The ruling with a request made before it. -/
def after (call : Call) (ruling : Ruling) : Ruling := { ruling with calls := call :: ruling.calls }

@[simp] theorem verdict_after (call : Call) (r : Ruling) : (r.after call).verdict = r.verdict := rfl
@[simp] theorem calls_after (call : Call) (r : Ruling) : (r.after call).calls = call :: r.calls := rfl
@[simp] theorem events_after (call : Call) (r : Ruling) : (r.after call).events = r.events := rfl

/-- Go on with the actor's token. -/
def withToken (ctx : Context) (rest : String → Ruling) : Ruling :=
  match ctx.requireAccessToken with
  | .error value => missing value
  | .ok token => rest token

/-- Go on with the actor's realm. -/
def withRealm (ctx : Context) (rest : String → Ruling) : Ruling :=
  match ctx.requireRealm with
  | .error value => missing value
  | .ok realm => rest realm

/-- Go on with the actor's groups. -/
def withGroups (ctx : Context) (rest : List String → Ruling) : Ruling :=
  match ctx.requireGroups with
  | .error value => missing value
  | .ok groups => rest groups

/-- Make a request and go on with the answer. -/
def withAnswer {ε α : Type} (call : Call) (asFailure : ε → Failure) (answer : Except ε α)
    (rest : α → Ruling) : Ruling :=
  after call <|
    match answer with
    | .error e => failed (asFailure e)
    | .ok a => rest a

end Ruling

end RealmAccess
