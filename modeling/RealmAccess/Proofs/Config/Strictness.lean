/-
RealmAccess.Proofs.Config.Strictness — misspelt settings and nulls, wherever
they occur.

Every table of the settings is read as some record, at some place: the settings
as a whole, a section, an action, a rule or an admin configuration. The settings
read what is at a place by that record (`Place.reads`), so what the record makes
of an unknown key or of a null is what the settings make of it.
-/
import RealmAccess.Proofs.Config.Encoding
import RealmAccess.Proofs.Document.Fields

namespace RealmAccess

open Decoder Document

/-! ## Shapes -/

/-- A record type and its fields that take null. All others refuse it. -/
structure Shape where
  {σ : Type}
  record : Record σ
  layout : Layout record
  /-- The names of the fields that take null. -/
  optional : List String
  takes : ∀ name ∈ optional, ∃ p ∈ layout.parts, p.name = name ∧ p.TakesNull record
  refuses : ∀ p ∈ layout.parts, p.name ∈ optional ∨ p.item.RefusesNull

/-- A record type without a field that takes null. -/
def Shape.plain {σ : Type} {r : Record σ} (layout : Layout r)
    (h : ∀ p ∈ layout.parts, p.item.RefusesNull) : Shape where
  record := r
  layout := layout
  optional := []
  takes := nofun
  refuses p hp := .inr (h p hp)

theorem ServiceSettings.refuses_null : ∀ p ∈ layout.parts, p.item.RefusesNull := by
  simp [layout, Part.always, record_refusesNull]

def ServiceSettings.shape : Shape := .plain layout refuses_null

theorem AuthorizationSettings.refuses_null : ∀ p ∈ layout.parts, p.item.RefusesNull := by
  simp [layout, Part.always, string_refusesNull, boolean_refusesNull, record_refusesNull,
    sequence_refusesNull, map_refusesNull]

def AuthorizationSettings.shape : Shape := .plain layout refuses_null

theorem ReloadSettings.refuses_null : ∀ p ∈ layout.parts, p.item.RefusesNull := by
  simp [layout, Part.always, boolean_refusesNull, word_refusesNull]

def ReloadSettings.shape : Shape := .plain layout refuses_null

theorem Action.refuses_null : ∀ p ∈ layout.parts, p.item.RefusesNull := by
  simp [layout, Part.always, string_refusesNull, oneOfVariants_refusesNull]

def Action.shape : Shape := .plain layout refuses_null

/-- The fields of a rule that take null. -/
def Rule.optional : List String := ["target_realm", "target_group"]

theorem Rule.takes_null :
    ∀ name ∈ optional, ∃ p ∈ layout.parts, p.name = name ∧ p.TakesNull schema := by
  simp [optional, layout, schema, Part.always, Part.optional, Part.takesNull_iff, nullable]

theorem Rule.refuses_null : ∀ p ∈ layout.parts, p.name ∈ optional ∨ p.item.RefusesNull := by
  simp [optional, layout, Part.always, Part.optional, string_refusesNull]

def Rule.shape : Shape := ⟨schema, layout, optional, takes_null, refuses_null⟩

/-- The fields of an admin configuration that take null: all of them. -/
def AdminConfiguration.optional : List String := [
  "video_identification_allowed_roles",
  "auxiliary_video_identification_allowed_roles",
  "auto_identification_allowed_roles",
  "physical_identification_allowed_roles",
  "auxiliary_physical_identification_allowed_roles"]

theorem AdminConfiguration.takes_null :
    ∀ name ∈ optional, ∃ p ∈ layout.parts, p.name = name ∧ p.TakesNull schema := by
  simp [optional, layout, schema, Part.optional, Part.takesNull_iff, nullable]

theorem AdminConfiguration.refuses_null :
    ∀ p ∈ layout.parts, p.name ∈ optional ∨ p.item.RefusesNull := by
  simp [optional, layout, Part.optional]

def AdminConfiguration.shape : Shape := ⟨schema, layout, optional, takes_null, refuses_null⟩

theorem ObservabilitySettings.refuses_null : ∀ p ∈ layout.parts, p.item.RefusesNull := by
  simp [layout, Part.always, record_refusesNull]

def ObservabilitySettings.shape : Shape := .plain layout refuses_null

/-- The field of the logging section that takes null. -/
def LoggingSettings.optional : List String := ["filter"]

theorem LoggingSettings.takes_null :
    ∀ name ∈ optional, ∃ p ∈ layout.parts, p.name = name ∧ p.TakesNull schema := by
  simp [optional, layout, schema, Part.always, Part.takesNull_iff, nullable]

theorem LoggingSettings.refuses_null :
    ∀ p ∈ layout.parts, p.name ∈ optional ∨ p.item.RefusesNull := by
  simp [optional, layout, Part.always, boolean_refusesNull, oneOfVariants_refusesNull]

def LoggingSettings.shape : Shape := ⟨schema, layout, optional, takes_null, refuses_null⟩

namespace Shape

variable {shape : Shape} {format : Format} {name : String}

/-- A null may be left out where the shape takes null. -/
theorem decode_omit (hname : name ∈ shape.optional) (d : Document)
    (hnull : ∀ fields, d = .table fields → ∀ e ∈ fields, e.1 = name → e.2 = .null) :
    shape.record.decode format (d.retain (· ≠ name)) = shape.record.decode format d := by
  obtain ⟨p, hp, rfl, htakes⟩ := shape.takes name hname
  cases d with
  | table fields => exact shape.layout.decode_omit hp htakes (hnull fields rfl)
  | _ => rfl

theorem decode_null (hname : name ∈ shape.record.names) (hoptional : name ∉ shape.optional)
    {fields : List (String × Document)} (hmem : (name, .null) ∈ fields) :
    shape.record.decode.Refuses format (.table fields) := by
  rw [shape.layout.names_eq] at hname
  obtain ⟨p, hp, rfl⟩ := List.mem_map.mp hname
  exact shape.layout.decode_null hp ((shape.refuses p hp).resolve_left hoptional) hmem

end Shape

/-! ## Places -/

/-- A place of the settings where a record stands. -/
inductive Place where
  | service
  | authorization
  | reload
  /-- An entry of the list of actions, counted from zero. -/
  | action (index : Nat)
  /-- An entry of the list of rules, counted from zero. -/
  | rule (index : Nat)
  /-- The admin configuration of a realm. -/
  | adminConfiguration (realm : String)
  | observability
  | logging

namespace Place

/-- The record that stands at the place. -/
def shape : Place → Shape
  | .service => ServiceSettings.shape
  | .authorization => AuthorizationSettings.shape
  | .reload => ReloadSettings.shape
  | .action _ => Action.shape
  | .rule _ => Rule.shape
  | .adminConfiguration _ => AdminConfiguration.shape
  | .observability => ObservabilitySettings.shape
  | .logging => LoggingSettings.shape

/-- The steps from the settings to the place. -/
def path : Place → List Step
  | .service => []
  | .authorization => [.field "authorization" 0]
  | .reload => [.field "authorization" 0, .field "reload" 1]
  | .action index => [.field "authorization" 0, .field "actions" 3, .item index]
  | .rule index => [.field "authorization" 0, .field "rules" 4, .item index]
  | .adminConfiguration realm =>
    [.field "authorization" 0, .field "admin_configurations" 5, .value realm]
  | .observability => [.field "observability" 1]
  | .logging => [.field "observability" 1, .field "logging" 0]

/-- The steps from the settings to the list of rules. -/
def rules : List Step := [.field "authorization" 0, .field "rules" 4]

theorem reads_rules : ServiceSettings.schema.decode.Reads rules (sequence Rule.schema.decode) :=
  (ServiceSettings.layout.reads 0 rfl).trans (AuthorizationSettings.layout.reads 4 rfl)

/-- What is at a place is read as the record of the place. -/
theorem reads (place : Place) :
    ServiceSettings.schema.decode.Reads place.path place.shape.record.decode := by
  have hauthorization := ServiceSettings.layout.reads 0 rfl
  have hobservability := ServiceSettings.layout.reads 1 rfl
  cases place with
  | service => exact .here _
  | authorization => exact hauthorization
  | reload => exact hauthorization.trans (AuthorizationSettings.layout.reads 1 rfl)
  | action index =>
    have hactions := hauthorization.trans (AuthorizationSettings.layout.reads 3 rfl)
    exact hactions.trans (reads_item _ index)
  | rule index => exact reads_rules.trans (reads_item _ index)
  | adminConfiguration realm =>
    have hconfigurations := hauthorization.trans (AuthorizationSettings.layout.reads 5 rfl)
    exact hconfigurations.trans (reads_value _ realm)
  | observability => exact hobservability
  | logging => exact hobservability.trans (ObservabilitySettings.layout.reads 0 rfl)

theorem strict_of_ne_rule {place : Place} (h : ∀ index, place ≠ .rule index) :
    place.shape.record.lenient = false := by
  cases place with
  | rule index => exact absurd rfl (h index)
  | _ => rfl

end Place

/-! ## Main statement -/

/-- **Settings are read strictly.** A key that the record at its place does not have is refused,
except that rules are read as if all such keys were removed from them. A null is refused too, unless
the field is optional; then it may be left out. -/
theorem settings_are_read_strictly (format : Format) (d : Document) :
    (∀ place : Place, (∀ index, place ≠ .rule index) →
      ∀ fields e, .table fields ∈ d.parts place.path → e ∈ fields →
        e.1 ∉ place.shape.record.names → ServiceSettings.schema.decode.Refuses format d) ∧
    ServiceSettings.schema.decode format
        (d.revise Place.rules (onItems (retain (· ∈ Rule.schema.names)))) =
      ServiceSettings.schema.decode format d ∧
    (∀ (place : Place) (name : String), name ∈ place.shape.optional →
      (∀ fields e, .table fields ∈ d.parts place.path → e ∈ fields → e.1 = name → e.2 = .null) →
        ServiceSettings.schema.decode format (d.revise place.path (retain (· ≠ name))) =
          ServiceSettings.schema.decode format d) ∧
    ∀ (place : Place) (name : String), name ∈ place.shape.record.names →
      name ∉ place.shape.optional →
        ∀ fields, .table fields ∈ d.parts place.path → (name, .null) ∈ fields →
          ServiceSettings.schema.decode.Refuses format d := by
  refine ⟨?unknown, ?rules, ?optional, ?null⟩
  case unknown =>
    intro place hplace fields e hpart he hname
    exact place.reads.refuses hpart
      (Record.decode_unknown (Place.strict_of_ne_rule hplace) he hname)
  case rules =>
    exact Place.reads_rules.congr fun part _ =>
      sequence_onItems (Record.decode_retain_names rfl) part
  case optional =>
    intro place name hname hnull
    refine place.reads.congr fun part hpart => Shape.decode_omit hname part ?_
    rintro fields rfl e he hkey
    exact hnull fields e hpart he hkey
  case null =>
    intro place name hname hoptional fields hpart hmem
    exact place.reads.refuses hpart (Shape.decode_null hname hoptional hmem)

/-- Settings of one rule, given by its entries, and nothing else. -/
def Document.ofRule (entries : List (String × Document)) : Document :=
  .table [("authorization", .table [("rules", .list [.table entries])])]

theorem Document.parts_ofRule (entries : List (String × Document)) :
    (ofRule entries).parts (Place.rule 0).path = [.table entries] := by
  simp [ofRule, Place.path, parts, Step.parts]

/-- A rule by which support may view every realm. -/
def supportViews : List (String × Document) := [
  ("user_realm", .string "master"),
  ("user_group", .string "support"),
  ("action", .string "view"),
  ("target_realm", .string "*")]

/-- The rule is read with a note as without it, and with null for a target group as without one; but
not with null for the user group. A misspelt interval is refused as well. -/
theorem noted_rule_read_without_note :
    let settings : ServiceSettings :=
      { authorization := { rules := [⟨"master", "support", "view", some "*", none⟩] } }
    let decode := ServiceSettings.schema.decode
    decode .json (ofRule (("note", .string "for now") :: supportViews)) = .ok settings ∧
      decode .json (ofRule (("target_group", .null) :: supportViews)) = .ok settings ∧
      decode.Refuses .json (ofRule (("user_group", .null) :: supportViews)) ∧
      decode.Refuses .json
        (.table [("authorization", .table [("reload", .table [("interval", .int 60)])])]) := by
  intro settings decode
  have hread : decode .json (ofRule supportViews) = .ok settings := rfl
  refine ⟨?note, ?absent, ?null, ?interval⟩
  case note =>
    obtain ⟨-, hrules, -⟩ := settings_are_read_strictly .json
      (ofRule (("note", .string "for now") :: supportViews))
    exact hrules.symm.trans hread
  case absent =>
    obtain ⟨-, -, hoptional, -⟩ := settings_are_read_strictly .json
      (ofRule (("target_group", .null) :: supportViews))
    have hnull : ∀ e ∈ ("target_group", Document.null) :: supportViews,
        e.1 = "target_group" → e.2 = .null := by
      simp [supportViews]
    refine (hoptional (.rule 0) "target_group" (by decide) ?_).symm.trans hread
    intro fields e hpart he
    rw [parts_ofRule, List.mem_singleton] at hpart
    cases hpart
    exact hnull e he
  case null =>
    obtain ⟨-, -, -, hnull⟩ := settings_are_read_strictly .json
      (ofRule (("user_group", .null) :: supportViews))
    refine hnull (.rule 0) "user_group" (by decide) (by decide)
      (("user_group", .null) :: supportViews) ?_ List.mem_cons_self
    rw [parts_ofRule]
    exact List.mem_cons_self
  case interval =>
    obtain ⟨hunknown, -⟩ := settings_are_read_strictly .json
      (.table [("authorization", .table [("reload", .table [("interval", .int 60)])])])
    exact hunknown .reload nofun [("interval", .int 60)] ("interval", .int 60)
      (by simp [Place.path, parts, Step.parts]) List.mem_cons_self (by decide)

end RealmAccess
