/-
RealmAccess.Event — what is written to the log.

An event has a level, a fixed message and named values. A value that may be
absent is left out of the event when it is.
-/
import RealmAccess.Text.Quoted

namespace RealmAccess

/-- How grave an event is, or how much of the log is wanted. -/
inductive Level where
  | error
  | warn
  | info
  | debug
  | trace
  deriving DecidableEq, Inhabited

namespace Level

/-- Every level, gravest first. -/
def all : List Level := [.error, .warn, .info, .debug, .trace]

/-- The name of a level in capitals. -/
def name : Level → String
  | .error => "ERROR"
  | .warn => "WARN"
  | .info => "INFO"
  | .debug => "DEBUG"
  | .trace => "TRACE"

/-- The name of a level in small letters. -/
def smallName : Level → String
  | .error => "error"
  | .warn => "warn"
  | .info => "info"
  | .debug => "debug"
  | .trace => "trace"

/-- How many levels are as grave or graver. -/
def verbosity : Level → Nat
  | .error => 1
  | .warn => 2
  | .info => 3
  | .debug => 4
  | .trace => 5

end Level

/-- A value of an event. -/
inductive EventValue where
  | count (n : Nat)
  | text (s : String)
  /-- A list of names, written quoted between square brackets. -/
  | names (l : List String)
  /-- When the matrix was last loaded, as the number of that load. -/
  | moment (load : Nat)
  deriving DecidableEq

/-- An entry of the log. -/
structure Event where
  level : Level
  message : String
  fields : List (String × EventValue) := []
  deriving DecidableEq

/-- A value of an event that is left out if it is absent. -/
def Event.optionalText (name : String) : Option String → List (String × EventValue)
  | some s => [(name, .text s)]
  | none => []

end RealmAccess
