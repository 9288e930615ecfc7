/-
RealmAccess.Config.Validation — settings that fit together.

The primary realm must have a name with more than white space in it and a
periodic reload an interval. If rules are to be strict, the actions must
have different names and every rule must conform to its action; all rules
that do not are reported at once, each with its position.
-/
import RealmAccess.Action.Violation
import RealmAccess.Config
import RealmAccess.Text.Blank

namespace RealmAccess

/-- Why settings do not fit together. -/
inductive Invalid where
  /-- The primary realm has no name. -/
  | blankPrimaryRealm
  /-- The matrix would be reloaded without a pause. -/
  | zeroInterval
  /-- The declaration of an action is refused. -/
  | action (violation : Violation)
  /-- Some rules do not conform to their actions. -/
  | rules (violations : List (Nat × Violation))
  deriving DecidableEq

namespace Invalid

/-- One line for a rule at a position. -/
def ruleLine (e : Nat × Violation) : String :=
  "rule #" ++ toString e.1 ++ ": " ++ e.2.message

/-- What is wrong with the settings. -/
def detail : Invalid → String
  | .blankPrimaryRealm => "authorization.primary_realm must not be empty"
  | .zeroInterval => "authorization.reload.interval_secs must be greater than 0"
  | .action violation => violation.message
  | .rules violations =>
    "Invalid authorization rules:\n  - " ++ String.intercalate "\n  - " (violations.map ruleLine)

/-- The message for settings that do not fit together. -/
def message (e : Invalid) : String := "Configuration validation error: " ++ e.detail

end Invalid

namespace AuthorizationSettings

/-- The registry of the declared actions. -/
def registry (s : AuthorizationSettings) : Except Invalid Registry :=
  match Registry.registerAll ∅ s.actions with
  | .ok r => .ok r
  | .error violation => .error (.action violation)

/-- Check every rule against the declared actions. -/
def validateRules (s : AuthorizationSettings) : Except Invalid Unit :=
  match s.registry with
  | .error e => .error e
  | .ok r =>
    match r.violations s.rules with
    | [] => .ok ()
    | violations => .error (.rules violations)

/-- Check that the settings fit together. -/
def validate (s : AuthorizationSettings) : Except Invalid Unit :=
  if Text.allBlank s.primaryRealm then .error .blankPrimaryRealm
  else if s.reload.enabled ∧ s.reload.intervalSecs = 0 then .error .zeroInterval
  else if s.strictRules then s.validateRules
  else .ok ()

end AuthorizationSettings

end RealmAccess
