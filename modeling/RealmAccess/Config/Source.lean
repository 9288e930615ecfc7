/-
RealmAccess.Config.Source — settings read from a text or a file.

A text goes through three stages, and the first that fails decides the
error: the references to variables are replaced, the result is read as a
TOML document and decoded, and the settings are checked to fit together.
-/
import RealmAccess.Config.Expansion
import RealmAccess.Config.Schema
import RealmAccess.Config.Validation
import RealmAccess.Toml

namespace RealmAccess

/-- Why a file cannot be read as text. -/
inductive FileFault where
  /-- There is no such file. -/
  | notFound
  /-- Its bytes are no text. -/
  | notText
  deriving DecidableEq

namespace FileFault

/-- The kind of the fault. -/
def kind : FileFault → String
  | .notFound => "NotFound"
  | .notText => "InvalidData"

/-- What is wrong with the file. -/
def detail : FileFault → String
  | .notFound => "No such file or directory (os error 2)"
  | .notText => "stream did not contain valid UTF-8"

end FileFault

/-- Why a configuration cannot be used. -/
inductive ConfigError where
  | file (path : String) (fault : FileFault)
  /-- A variable has no value. -/
  | variableNotFound (name : String)
  /-- The text is no TOML document. -/
  | malformed
  /-- The document does not decode. -/
  | decode (cause : DecodeError)
  | invalid (cause : Invalid)
  deriving DecidableEq

namespace ConfigError

/-- The message of a configuration error; a malformed text has none of its own. -/
def message : ConfigError → String
  | .file path fault => "Failed to read config file " ++ path ++ ": " ++ fault.detail
  | .variableNotFound name => "Environment variable not found: " ++ name
  | .malformed => "Failed to parse config"
  | .decode cause => cause.message .toml
  | .invalid cause => cause.message

end ConfigError

namespace ServiceSettings

/-- Decode an expanded text. -/
def parse (text : String) : Except ConfigError ServiceSettings :=
  match Toml.read? text with
  | none => .error .malformed
  | some d => (schema.decode .toml d).mapError .decode

/-- Check that the settings fit together. -/
def checked (s : ServiceSettings) : Except ConfigError ServiceSettings :=
  match s.authorization.validate with
  | .ok () => .ok s
  | .error e => .error (.invalid e)

/-- Read settings from a text. -/
def ofText (env : Environment) (text : String) : Except ConfigError ServiceSettings :=
  match Expansion.expand env text with
  | .error name => .error (.variableNotFound name)
  | .ok text =>
    match parse text with
    | .error e => .error e
    | .ok s => s.checked

/-- Read settings from the bytes of a file, if there is one at the path. -/
def ofFile (env : Environment) (path : String) (bytes : Option ByteArray) :
    Except ConfigError ServiceSettings :=
  match bytes with
  | none => .error (.file path .notFound)
  | some bytes =>
    match String.fromUTF8? bytes with
    | none => .error (.file path .notText)
    | some text => ofText env text

end ServiceSettings

end RealmAccess
