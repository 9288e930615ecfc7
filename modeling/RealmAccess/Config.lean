/-
RealmAccess.Config — what a service is configured with.

Every section may be left out and then has its defaults: the primary realm
is `master`, the matrix is reloaded every five minutes, rules are not
checked against the declared actions, and the log is compact, from level
info on and with timestamps.
-/
import RealmAccess.Action
import RealmAccess.Event
import RealmAccess.Matrix.Key
import RealmAccess.Role
import RealmAccess.Rule

namespace RealmAccess

/-- When the matrix is reloaded. -/
structure ReloadSettings where
  enabled : Bool := true
  /-- Seconds between a reload and the next. -/
  intervalSecs : UInt64 := 300
  deriving DecidableEq, Inhabited

/-- The settings of the checks. -/
structure AuthorizationSettings where
  primaryRealm : String := defaultPrimaryRealm
  reload : ReloadSettings := {}
  /-- Whether rules that name undeclared actions or have the wrong targets are refused. -/
  strictRules : Bool := false
  actions : List Action := []
  rules : List Rule := []
  /-- The roles that each realm allows. -/
  adminConfigurations : Table String AdminConfiguration := ∅
  deriving DecidableEq, Inhabited

/-- How the log is laid out. -/
inductive LogFormat where
  | pretty
  | compact
  | json
  deriving DecidableEq, Inhabited

/-- The name of a layout. -/
def LogFormat.name : LogFormat → String
  | .pretty => "pretty"
  | .compact => "compact"
  | .json => "json"

/-- The settings of the log. -/
structure LoggingSettings where
  level : Level := .info
  format : LogFormat := .compact
  timestamps : Bool := true
  /-- Whether an event says where in the program it arose. -/
  fileLine : Bool := false
  /-- Levels for single targets. -/
  filter : Option String := none
  deriving DecidableEq, Inhabited

/-- The settings by which a service is observed. -/
structure ObservabilitySettings where
  logging : LoggingSettings := {}
  deriving DecidableEq, Inhabited

/-- All settings of a service. -/
structure ServiceSettings where
  authorization : AuthorizationSettings := {}
  observability : ObservabilitySettings := {}
  deriving DecidableEq, Inhabited

end RealmAccess
