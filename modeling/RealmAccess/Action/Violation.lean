/-
RealmAccess.Action.Violation — rules checked against the declared actions.

The matrix accepts any row. A service that lets administrators edit rules
checks them here first: the actor must be named, the action declared, and
the targets those of its scope. The first fault of a rule is its violation.
-/
import RealmAccess.Action
import RealmAccess.Rule
import RealmAccess.Matrix.Key

namespace RealmAccess

/-- The field that names the actor's realm or group. -/
inductive ActorField where
  | userRealm
  | userGroup
  deriving DecidableEq

/-- The field's name in a stored rule. -/
def ActorField.name : ActorField → String
  | .userRealm => "user_realm"
  | .userGroup => "user_group"

/-- Why a rule, or the declaration of an action, is refused. -/
inductive Violation where
  | emptyField (field : ActorField)
  | unknownAction (name : String)
  | invalidGlobalTarget (action : String)
  | missingTargetRealm (action : String)
  | unexpectedTargetGroup (action : String)
  | missingTargetGroup (action : String)
  | duplicateAction (name : String)
  deriving DecidableEq

namespace Violation

/-- The field or action at fault. -/
def subject : Violation → String
  | .emptyField field => field.name
  | .unknownAction name
  | .invalidGlobalTarget name
  | .missingTargetRealm name
  | .unexpectedTargetGroup name
  | .missingTargetGroup name
  | .duplicateAction name => name

/-- The message of a violation. -/
def message : Violation → String
  | .emptyField field => "Rule field '" ++ field.name ++ "' is empty"
  | .unknownAction name => "Unknown action '" ++ name ++ "'"
  | .invalidGlobalTarget action =>
    "Global action '" ++ action ++ "' must target realm '*' without a target group"
  | .missingTargetRealm action => "Action '" ++ action ++ "' requires a target realm"
  | .unexpectedTargetGroup action => "Realm action '" ++ action ++ "' does not accept a target group"
  | .missingTargetGroup action => "Group action '" ++ action ++ "' requires a target group"
  | .duplicateAction name => "Action '" ++ name ++ "' is already registered"

end Violation

namespace Registry

/-- Register an action, or say that its name is taken. -/
def register (r : Registry) (a : Action) : Except Violation Registry :=
  match r.register? a with
  | some r => .ok r
  | none => .error (.duplicateAction a.name)

/-- Register actions from the front; the first taken name stops it. -/
def registerAll : Registry → List Action → Except Violation Registry
  | r, [] => .ok r
  | r, a :: rest =>
    match r.register a with
    | .error v => .error v
    | .ok r => registerAll r rest

/-- Ask for an action to be registered: the registry from then on, and the violation if the action
is refused. A refusal leaves the registry as it was. -/
def offer (r : Registry) (a : Action) : Registry × Option Violation :=
  match r.register a with
  | .ok r => (r, none)
  | .error v => (r, some v)

/-- Ask for some actions in turn, refused or not: the registry in the end, and every answer. -/
def offerAll : Registry → List Action → Registry × List (Option Violation)
  | r, [] => (r, [])
  | r, a :: rest =>
    let (r, answer) := r.offer a
    let (r, answers) := offerAll r rest
    (r, answer :: answers)

/-- The fault of a rule's targets under the scope of its action, if any. -/
def targetViolation (action : Action) (rule : Rule) : Option Violation :=
  match action.scope with
  | .global =>
    if rule.targetRealm ≠ some anyToken ∨ rule.targetGroup.isSome then
      some (.invalidGlobalTarget action.name)
    else none
  | .realm =>
    if rule.targetRealm.isNone then some (.missingTargetRealm action.name)
    else if rule.targetGroup.isSome then some (.unexpectedTargetGroup action.name)
    else none
  | .group =>
    if rule.targetRealm.isNone then some (.missingTargetRealm action.name)
    else if rule.targetGroup.isNone then some (.missingTargetGroup action.name)
    else none

/-- The first fault of a rule, if any. -/
def violation (r : Registry) (rule : Rule) : Option Violation :=
  if rule.userRealm = "" then some (.emptyField .userRealm)
  else if rule.userGroup = "" then some (.emptyField .userGroup)
  else
    match r.get? rule.action with
    | none => some (.unknownAction rule.action)
    | some action => targetViolation action rule

/-- The faults of a list of rules whose first has the given position, each with its position. -/
def violationsFrom (r : Registry) : Nat → List Rule → List (Nat × Violation)
  | _, [] => []
  | index, rule :: rest =>
    match r.violation rule with
    | none => violationsFrom r (index + 1) rest
    | some v => (index, v) :: violationsFrom r (index + 1) rest

/-- The faults of a list of rules, each with its position from zero on. -/
def violations (r : Registry) (rules : List Rule) : List (Nat × Violation) := r.violationsFrom 0 rules

end Registry

end RealmAccess
