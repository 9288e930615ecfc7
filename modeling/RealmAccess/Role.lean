/-
RealmAccess.Role — identification actions restricted by role.

A realm may restrict each family of identification actions to a list of
roles. A family without a list, or with an empty one, is open to every
role; otherwise one of the actor's roles must be listed. Each action reads
its own list and no other.
-/

namespace RealmAccess

/-- The roles that a realm allows for each family of identification actions. -/
structure AdminConfiguration where
  videoRoles : Option (List String) := none
  auxiliaryVideoRoles : Option (List String) := none
  autoRoles : Option (List String) := none
  physicalRoles : Option (List String) := none
  auxiliaryPhysicalRoles : Option (List String) := none
  deriving DecidableEq, Inhabited

/-- The configuration that restricts nothing. -/
def AdminConfiguration.unrestricted : AdminConfiguration := {}

/-- An identification action restricted by role. -/
inductive RoleAction where
  | videoIdentification
  | auxiliaryVideoIdentification
  | autoIdentification
  | physicalIdentification
  | auxiliaryPhysicalIdentification
  deriving DecidableEq, Inhabited

/-- A name that is no role-restricted action. -/
structure UnknownRoleAction where
  name : String
  deriving DecidableEq

/-- The message for an unknown name. -/
def UnknownRoleAction.message (e : UnknownRoleAction) : String :=
  "Unknown role-restricted action: " ++ e.name

namespace RoleAction

/-- Every role-restricted action. -/
def all : List RoleAction :=
  [.videoIdentification, .auxiliaryVideoIdentification, .autoIdentification,
    .physicalIdentification, .auxiliaryPhysicalIdentification]

/-- The name of an action. -/
def name : RoleAction → String
  | .videoIdentification => "VideoIdentification"
  | .auxiliaryVideoIdentification => "AuxiliaryVideoIdentification"
  | .autoIdentification => "AutoIdentification"
  | .physicalIdentification => "PhysicalIdentification"
  | .auxiliaryPhysicalIdentification => "AuxiliaryPhysicalIdentification"

/-- The action of that name. -/
def parse (name : String) : Except UnknownRoleAction RoleAction :=
  match all.find? (·.name = name) with
  | some action => .ok action
  | none => .error ⟨name⟩

/-- Every action is read back from its name. -/
theorem parse_name (action : RoleAction) : parse action.name = .ok action := by
  cases action <;> rfl

/-- The list that a configuration has for an action. -/
def configured (action : RoleAction) (c : AdminConfiguration) : Option (List String) :=
  match action with
  | .videoIdentification => c.videoRoles
  | .auxiliaryVideoIdentification => c.auxiliaryVideoRoles
  | .autoIdentification => c.autoRoles
  | .physicalIdentification => c.physicalRoles
  | .auxiliaryPhysicalIdentification => c.auxiliaryPhysicalRoles

/-- The roles allowed to perform an action; none means every role. -/
def allowedRoles (action : RoleAction) (c : AdminConfiguration) : List String :=
  (action.configured c).getD []

/-- Whether an actor with some roles may perform an action. -/
def permits (action : RoleAction) (roles : List String) (c : AdminConfiguration) : Bool :=
  (action.allowedRoles c).isEmpty || roles.any ((action.allowedRoles c).contains ·)

end RoleAction

end RealmAccess
