/-
RealmAccess.Config.Schema — how settings are written as documents.

Every type has a description of its fields, by which it is read, and an
encoder. Rules skip fields that they do not know, so that a store may hold
more than the matrix needs; all else refuses them. Encoding writes every
field, except that the optional fields of rules and admin configurations
are left out when absent.
-/
import RealmAccess.Config
import RealmAccess.Document.Record

namespace RealmAccess

open Decoder

/-! ## Rules, admin configurations, actions -/

/-- The fields of a rule. -/
def Rule.schema : Record Rule where
  name := "AuthorizationRule"
  blank := ⟨"", "", "", none, none⟩
  lenient := true
  fields := [
    .needed "user_realm" string fun r v => { r with userRealm := v },
    .needed "user_group" string fun r v => { r with userGroup := v },
    .needed "action" string fun r v => { r with action := v },
    .spared "target_realm" (nullable string) fun r v => { r with targetRealm := v },
    .spared "target_group" (nullable string) fun r v => { r with targetGroup := v }]

/-- The fields of an admin configuration. -/
def AdminConfiguration.schema : Record AdminConfiguration where
  name := "RealmAdminConfiguration"
  blank := {}
  fields := [
    .spared "video_identification_allowed_roles" (nullable (sequence string))
      fun c v => { c with videoRoles := v },
    .spared "auxiliary_video_identification_allowed_roles" (nullable (sequence string))
      fun c v => { c with auxiliaryVideoRoles := v },
    .spared "auto_identification_allowed_roles" (nullable (sequence string))
      fun c v => { c with autoRoles := v },
    .spared "physical_identification_allowed_roles" (nullable (sequence string))
      fun c v => { c with physicalRoles := v },
    .spared "auxiliary_physical_identification_allowed_roles" (nullable (sequence string))
      fun c v => { c with auxiliaryPhysicalRoles := v }]

/-- The scopes by name. -/
def Scope.variants : List (String × Scope) := [("global", .global), ("realm", .realm), ("group", .group)]

/-- The name of a scope. -/
def Scope.name : Scope → String
  | .global => "global"
  | .realm => "realm"
  | .group => "group"

/-- The fields of an action. -/
def Action.schema : Record Action where
  name := "Action"
  blank := ⟨"", .global⟩
  fields := [
    .needed "name" string fun a v => { a with name := v },
    .needed "scope" (oneOfVariants Scope.variants) fun a v => { a with scope := v }]

/-! ## Sections -/

/-- The fields of the reload section. -/
def ReloadSettings.schema : Record ReloadSettings where
  name := "ReloadConfig"
  blank := {}
  fields := [
    .spared "enabled" boolean fun s v => { s with enabled := v },
    .spared "interval_secs" word fun s v => { s with intervalSecs := v }]

/-- The fields of the authorization section. -/
def AuthorizationSettings.schema : Record AuthorizationSettings where
  name := "AuthorizationConfig"
  blank := {}
  fields := [
    .spared "primary_realm" string fun s v => { s with primaryRealm := v },
    .spared "reload" ReloadSettings.schema.decode fun s v => { s with reload := v },
    .spared "strict_rules" boolean fun s v => { s with strictRules := v },
    .spared "actions" (sequence Action.schema.decode) fun s v => { s with actions := v },
    .spared "rules" (sequence Rule.schema.decode) fun s v => { s with rules := v },
    .spared "admin_configurations" (map AdminConfiguration.schema.decode)
      fun s v => { s with adminConfigurations := v }]

/-- The levels by name. -/
def Level.variants : List (String × Level) :=
  [("trace", .trace), ("debug", .debug), ("info", .info), ("warn", .warn), ("error", .error)]

/-- The layouts by name. -/
def LogFormat.variants : List (String × LogFormat) :=
  [("pretty", .pretty), ("compact", .compact), ("json", .json)]

/-- The fields of the logging section. -/
def LoggingSettings.schema : Record LoggingSettings where
  name := "LoggingConfig"
  blank := {}
  fields := [
    .spared "level" (oneOfVariants Level.variants) fun s v => { s with level := v },
    .spared "format" (oneOfVariants LogFormat.variants) fun s v => { s with format := v },
    .spared "timestamps" boolean fun s v => { s with timestamps := v },
    .spared "file_line" boolean fun s v => { s with fileLine := v },
    .spared "filter" (nullable string) fun s v => { s with filter := v }]

/-- The fields of the observability section. -/
def ObservabilitySettings.schema : Record ObservabilitySettings where
  name := "ObservabilityConfig"
  blank := {}
  fields := [.spared "logging" LoggingSettings.schema.decode fun s v => { s with logging := v }]

/-- The sections. -/
def ServiceSettings.schema : Record ServiceSettings where
  name := "AuthzServiceConfig"
  blank := {}
  fields := [
    .spared "authorization" AuthorizationSettings.schema.decode fun s v => { s with authorization := v },
    .spared "observability" ObservabilitySettings.schema.decode fun s v => { s with observability := v }]

/-! ## Encoding -/

namespace Document

/-- A field that is left out when its value is absent. -/
def optionalField {α : Type} (encode : α → Document) (name : String) : Option α → List (String × Document)
  | some a => [(name, encode a)]
  | none => []

/-- A list of strings. -/
def strings (l : List String) : Document := .list (l.map .string)

end Document

open Document

/-- Write a rule. -/
def Rule.encode (r : Rule) : Document :=
  .table <|
    [("user_realm", .string r.userRealm), ("user_group", .string r.userGroup), ("action", .string r.action)]
      ++ optionalField .string "target_realm" r.targetRealm
      ++ optionalField .string "target_group" r.targetGroup

/-- Write an admin configuration. -/
def AdminConfiguration.encode (c : AdminConfiguration) : Document :=
  .table <|
    optionalField strings "video_identification_allowed_roles" c.videoRoles
      ++ optionalField strings "auxiliary_video_identification_allowed_roles" c.auxiliaryVideoRoles
      ++ optionalField strings "auto_identification_allowed_roles" c.autoRoles
      ++ optionalField strings "physical_identification_allowed_roles" c.physicalRoles
      ++ optionalField strings "auxiliary_physical_identification_allowed_roles" c.auxiliaryPhysicalRoles

/-- Write an action. -/
def Action.encode (a : Action) : Document :=
  .table [("name", .string a.name), ("scope", .string a.scope.name)]

/-- Write a reload section. -/
def ReloadSettings.encode (s : ReloadSettings) : Document :=
  .table [("enabled", .bool s.enabled), ("interval_secs", .int s.intervalSecs.toNat)]

/-- Write an authorization section. -/
def AuthorizationSettings.encode (s : AuthorizationSettings) : Document :=
  .table [
    ("primary_realm", .string s.primaryRealm),
    ("reload", s.reload.encode),
    ("strict_rules", .bool s.strictRules),
    ("actions", .list (s.actions.map Action.encode)),
    ("rules", .list (s.rules.map Rule.encode)),
    ("admin_configurations", .table (s.adminConfigurations.entries.map fun (k, c) => (k, c.encode)))]

/-- Write a logging section. -/
def LoggingSettings.encode (s : LoggingSettings) : Document :=
  .table [
    ("level", .string s.level.smallName),
    ("format", .string s.format.name),
    ("timestamps", .bool s.timestamps),
    ("file_line", .bool s.fileLine),
    ("filter", match s.filter with | some f => .string f | none => .null)]

/-- Write an observability section. -/
def ObservabilitySettings.encode (s : ObservabilitySettings) : Document :=
  .table [("logging", s.logging.encode)]

/-- Write all settings. -/
def ServiceSettings.encode (s : ServiceSettings) : Document :=
  .table [("authorization", s.authorization.encode), ("observability", s.observability.encode)]

end RealmAccess
