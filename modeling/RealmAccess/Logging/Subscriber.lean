/-
RealmAccess.Logging.Subscriber — the place where the events of a program go.

A program has one subscriber for its whole life: the first to be installed
stays, and any further one is refused.
-/
import RealmAccess.Logging.Filter

namespace RealmAccess

/-- What receives the events of a program. -/
structure Subscriber where
  filter : Filter
  format : LogFormat
  timestamps : Bool
  fileLine : Bool
  deriving DecidableEq

/-- What a line of the log shows of an event. -/
structure LogLine where
  format : LogFormat
  level : Level
  target : String
  /-- Whether it shows when the event arose. -/
  time : Bool
  /-- Whether it shows the source file. -/
  file : Bool
  /-- Whether it shows the source line. -/
  line : Bool
  message : String
  fields : List (String × EventValue)
  deriving DecidableEq

namespace Subscriber

/-- The subscriber for some settings. -/
def ofSettings (env : Environment) (s : LoggingSettings) : Subscriber :=
  ⟨.ofSettings env s, s.format, s.timestamps, s.fileLine⟩

/-- The line for an event of a target, if it is logged at all. -/
def line? (s : Subscriber) (target : String) (e : Event) : Option LogLine :=
  if s.filter.admits target e.level then
    some ⟨s.format, e.level, target, s.timestamps, s.fileLine, s.fileLine, e.message, e.fields⟩
  else none

/-- The message for a subscriber that comes too late. -/
def refusedMessage : String :=
  "Failed to initialize tracing: a global default trace dispatcher has already been set"

/-- Install a subscriber, given the one that is there; the message says why it is refused. -/
def install (present : Option Subscriber) (s : Subscriber) : Except String Subscriber :=
  match present with
  | none => .ok s
  | some _ => .error refusedMessage

end Subscriber

end RealmAccess
