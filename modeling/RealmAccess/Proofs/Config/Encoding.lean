/-
RealmAccess.Proofs.Config.Encoding — settings are read as they were written.

Each type that settings are made of has a layout: its fields as parts, in the
order in which they are described. That the layout is the described record and
writes what the type's encoder writes is checked here; that such a record is
read as it was written is then `Layout.undoes`. The types are taken from the
inside out, since a section's layout needs that its own sections, lists and
maps are read as they were written.
-/
import RealmAccess.Config.Schema
import RealmAccess.Proofs.Document.Layout

namespace RealmAccess

open Decoder Document

/-- An optional part is written like an optional field. -/
theorem Part.written_optional {σ α : Type} {item : Decoder α} {encode : α → Document}
    {name : String} {get : σ → Option α} {set : σ → Option α → σ} {h : item.Undoes encode}
    {hne : ∀ a, encode a ≠ .null} {get_set : ∀ record a, get (set record a) = a} (record : σ) :
    (optional name get set h hne get_set).written record =
      optionalField encode name (get record) := by
  cases hget : get record with
  | none => simp [written, optional, optionalField, hget]
  | some a => simp [written, optional, optionalField, hget]

/-! ## Names and lists -/

theorem Scope.undoes : (oneOfVariants Scope.variants).Undoes fun s => .string s.name :=
  oneOfVariants_undoes fun s => by cases s <;> rfl

theorem Level.undoes : (oneOfVariants Level.variants).Undoes fun l => .string l.smallName :=
  oneOfVariants_undoes fun l => by cases l <;> rfl

theorem LogFormat.undoes : (oneOfVariants LogFormat.variants).Undoes fun f => .string f.name :=
  oneOfVariants_undoes fun f => by cases f <;> rfl

theorem strings_undoes : (sequence string).Undoes strings := string_undoes.sequence

/-! ## Rules, admin configurations, actions -/

/-- The parts of a rule. The targets are left out when absent. -/
def Rule.layout : Layout Rule.schema where
  parts := [
    .always true "user_realm" Rule.userRealm (fun r v => { r with userRealm := v })
      string_undoes fun _ _ => rfl,
    .always true "user_group" Rule.userGroup (fun r v => { r with userGroup := v })
      string_undoes fun _ _ => rfl,
    .always true "action" Rule.action (fun r v => { r with action := v })
      string_undoes fun _ _ => rfl,
    .optional "target_realm" Rule.targetRealm (fun r v => { r with targetRealm := v })
      string_undoes nofun fun _ _ => rfl,
    .optional "target_group" Rule.targetGroup (fun r v => { r with targetGroup := v })
      string_undoes nofun fun _ _ => rfl]
  fields := rfl
  apart := by simp [Part.apart_iff, Part.always, Part.optional]
  omitted := by simp [Part.always, Part.optional, schema]
  ext r s h := by
    cases r
    cases s
    simpa [Part.always, Part.optional] using h

theorem Rule.layout_encode (r : Rule) : layout.encode r = r.encode := by
  simp [Layout.encode, Layout.written, layout, encode, Part.written_optional, Part.written_always]

theorem Rule.undoes : Rule.schema.decode.Undoes Rule.encode :=
  funext Rule.layout_encode ▸ Rule.layout.undoes

/-- The parts of an admin configuration, each left out when absent. -/
def AdminConfiguration.layout : Layout AdminConfiguration.schema where
  parts := [
    .optional "video_identification_allowed_roles" videoRoles
      (fun c v => { c with videoRoles := v }) strings_undoes nofun fun _ _ => rfl,
    .optional "auxiliary_video_identification_allowed_roles" auxiliaryVideoRoles
      (fun c v => { c with auxiliaryVideoRoles := v }) strings_undoes nofun fun _ _ => rfl,
    .optional "auto_identification_allowed_roles" autoRoles
      (fun c v => { c with autoRoles := v }) strings_undoes nofun fun _ _ => rfl,
    .optional "physical_identification_allowed_roles" physicalRoles
      (fun c v => { c with physicalRoles := v }) strings_undoes nofun fun _ _ => rfl,
    .optional "auxiliary_physical_identification_allowed_roles" auxiliaryPhysicalRoles
      (fun c v => { c with auxiliaryPhysicalRoles := v }) strings_undoes nofun fun _ _ => rfl]
  fields := rfl
  apart := by simp [Part.apart_iff, Part.optional]
  omitted := by simp [Part.optional, schema]
  ext c d h := by
    cases c
    cases d
    simpa [Part.optional] using h

theorem AdminConfiguration.layout_encode (c : AdminConfiguration) : layout.encode c = c.encode := by
  simp [Layout.encode, Layout.written, layout, encode, Part.written_optional]

theorem AdminConfiguration.undoes : AdminConfiguration.schema.decode.Undoes encode :=
  funext layout_encode ▸ layout.undoes

/-- The parts of an action. -/
def Action.layout : Layout Action.schema where
  parts := [
    .always true "name" Action.name (fun a v => { a with name := v }) string_undoes fun _ _ => rfl,
    .always true "scope" Action.scope (fun a v => { a with scope := v }) Scope.undoes
      fun _ _ => rfl]
  fields := rfl
  apart := by simp [Part.apart_iff, Part.always]
  omitted := by simp [Part.always]
  ext a b h := by
    cases a
    cases b
    simpa [Part.always] using h

theorem Action.undoes : Action.schema.decode.Undoes Action.encode := layout.undoes

/-! ## Sections -/

/-- The parts of the reload section. -/
def ReloadSettings.layout : Layout ReloadSettings.schema where
  parts := [
    .always false "enabled" enabled (fun s v => { s with enabled := v }) boolean_undoes
      fun _ _ => rfl,
    .always false "interval_secs" intervalSecs (fun s v => { s with intervalSecs := v })
      word_undoes fun _ _ => rfl]
  fields := rfl
  apart := by simp [Part.apart_iff, Part.always]
  omitted := by simp [Part.always]
  ext s t h := by
    cases s
    cases t
    simpa [Part.always] using h

theorem ReloadSettings.undoes : ReloadSettings.schema.decode.Undoes encode := layout.undoes

/-- The parts of the authorization section. -/
def AuthorizationSettings.layout : Layout AuthorizationSettings.schema where
  parts := [
    .always false "primary_realm" primaryRealm (fun s v => { s with primaryRealm := v })
      string_undoes fun _ _ => rfl,
    .always false "reload" reload (fun s v => { s with reload := v }) ReloadSettings.undoes
      fun _ _ => rfl,
    .always false "strict_rules" strictRules (fun s v => { s with strictRules := v })
      boolean_undoes fun _ _ => rfl,
    .always false "actions" actions (fun s v => { s with actions := v }) Action.undoes.sequence
      fun _ _ => rfl,
    .always false "rules" rules (fun s v => { s with rules := v }) Rule.undoes.sequence
      fun _ _ => rfl,
    .always false "admin_configurations" adminConfigurations
      (fun s v => { s with adminConfigurations := v }) AdminConfiguration.undoes.map
      fun _ _ => rfl]
  fields := rfl
  apart := by simp [Part.apart_iff, Part.always]
  omitted := by simp [Part.always]
  ext s t h := by
    cases s
    cases t
    simpa [Part.always] using h

theorem AuthorizationSettings.undoes : AuthorizationSettings.schema.decode.Undoes encode :=
  layout.undoes

/-- The parts of the logging section. An absent filter is written, as null. -/
def LoggingSettings.layout : Layout LoggingSettings.schema where
  parts := [
    .always false "level" level (fun s v => { s with level := v }) Level.undoes fun _ _ => rfl,
    .always false "format" format (fun s v => { s with format := v }) LogFormat.undoes
      fun _ _ => rfl,
    .always false "timestamps" timestamps (fun s v => { s with timestamps := v }) boolean_undoes
      fun _ _ => rfl,
    .always false "file_line" fileLine (fun s v => { s with fileLine := v }) boolean_undoes
      fun _ _ => rfl,
    .always false "filter" filter (fun s v => { s with filter := v })
      (string_undoes.nullable nofun) fun _ _ => rfl]
  fields := rfl
  apart := by simp [Part.apart_iff, Part.always]
  omitted := by simp [Part.always]
  ext s t h := by
    cases s
    cases t
    simpa [Part.always] using h

theorem LoggingSettings.layout_encode (s : LoggingSettings) : layout.encode s = s.encode := by
  cases s with
  | mk level format timestamps fileLine filter => cases filter <;> rfl

theorem LoggingSettings.undoes : LoggingSettings.schema.decode.Undoes encode :=
  funext layout_encode ▸ layout.undoes

/-- The one part of the observability section. -/
def ObservabilitySettings.layout : Layout ObservabilitySettings.schema where
  parts := [
    .always false "logging" logging (fun s v => { s with logging := v }) LoggingSettings.undoes
      fun _ _ => rfl]
  fields := rfl
  apart := by simp
  omitted := by simp [Part.always]
  ext s t h := by
    cases s
    cases t
    simpa [Part.always] using h

theorem ObservabilitySettings.undoes : ObservabilitySettings.schema.decode.Undoes encode :=
  layout.undoes

/-- The sections as parts. -/
def ServiceSettings.layout : Layout ServiceSettings.schema where
  parts := [
    .always false "authorization" authorization (fun s v => { s with authorization := v })
      AuthorizationSettings.undoes fun _ _ => rfl,
    .always false "observability" observability (fun s v => { s with observability := v })
      ObservabilitySettings.undoes fun _ _ => rfl]
  fields := rfl
  apart := by simp [Part.apart_iff, Part.always]
  omitted := by simp [Part.always]
  ext s t h := by
    cases s
    cases t
    simpa [Part.always] using h

theorem ServiceSettings.undoes : ServiceSettings.schema.decode.Undoes encode := layout.undoes

/-! ## Main statement -/

/-- Values of a type survive encoding: each is read again as it was, so no two are written alike,
and what was read is written as before. -/
def Survives {α : Type} (decode : Decoder α) (encode : α → Document) : Prop :=
  decode.Undoes encode ∧ Function.Injective encode ∧
    ∀ format v w, decode format (encode v) = .ok w → encode w = encode v

theorem Decoder.Undoes.survives {α : Type} {decode : Decoder α} {encode : α → Document}
    (h : decode.Undoes encode) : Survives decode encode := by
  refine ⟨h, h.injective, ?_⟩
  intro format v w hw
  rw [h format v] at hw
  rw [Except.ok.inj hw]

/-- **Settings survive encoding**, whatever strings, lists, realms and words they hold. Since no two
values are written alike, an absent field is not taken for an empty one, nor a default for a value
that was given. -/
theorem settings_survive_encoding :
    Survives Rule.schema.decode Rule.encode ∧
    Survives AdminConfiguration.schema.decode AdminConfiguration.encode ∧
    Survives Action.schema.decode Action.encode ∧
    Survives ReloadSettings.schema.decode ReloadSettings.encode ∧
    Survives AuthorizationSettings.schema.decode AuthorizationSettings.encode ∧
    Survives LoggingSettings.schema.decode LoggingSettings.encode ∧
    Survives ObservabilitySettings.schema.decode ObservabilitySettings.encode ∧
    Survives ServiceSettings.schema.decode ServiceSettings.encode :=
  ⟨Rule.undoes.survives, AdminConfiguration.undoes.survives, Action.undoes.survives,
    ReloadSettings.undoes.survives, AuthorizationSettings.undoes.survives,
    LoggingSettings.undoes.survives, ObservabilitySettings.undoes.survives,
    ServiceSettings.undoes.survives⟩

end RealmAccess
