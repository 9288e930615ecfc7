/-
RealmAccess.Directory — an identity provider held in memory.

It knows users and groups by realm and identifier and answers the same to
every token. A user it does not know has no groups and no roles, and a
group it does not know has the empty name. During an outage every request
fails alike.
-/
import RealmAccess.Backend
import RealmAccess.Store

namespace RealmAccess

/-- The users and groups of all realms. -/
structure Directory where
  /-- The groups of users, by realm and user. -/
  userGroups : Table String (Table String (List String)) := ∅
  /-- The roles of users, by realm and user. -/
  userRoles : Table String (Table String (List String)) := ∅
  /-- The names of groups, by realm and group. -/
  groupNames : Table String (Table String String) := ∅
  /-- Why nothing can be asked at present, if nothing can. -/
  outage : Option IdentityFailure := none
  deriving DecidableEq, Inhabited

namespace Directory

/-- What is stored for an identifier in a realm, or else the given value. -/
def entry {α : Type} (t : Table String (Table String α)) (realm id : String) (absent : α) : α :=
  ((t.find? realm).bind (·.find? id)).getD absent

/-- Store a value for an identifier in a realm. -/
def setEntry {α : Type} (t : Table String (Table String α)) (realm id : String) (value : α) :
    Table String (Table String α) :=
  t.upsert realm fun ids => (ids.getD ∅).insert id value

/-- Set the groups of a user. -/
def setUserGroups (d : Directory) (realm user : String) (groups : List String) : Directory :=
  { d with userGroups := setEntry d.userGroups realm user groups }

/-- Set the roles of a user. -/
def setUserRoles (d : Directory) (realm user : String) (roles : List String) : Directory :=
  { d with userRoles := setEntry d.userRoles realm user roles }

/-- Set the name of a group. -/
def setGroupName (d : Directory) (realm group name : String) : Directory :=
  { d with groupNames := setEntry d.groupNames realm group name }

/-- An answer, unless there is an outage. -/
def answer {α : Type} (d : Directory) (value : α) : Except IdentityFailure α :=
  match d.outage with
  | some failure => .error failure
  | none => .ok value

end Directory

/-- The backend that answers from memory. -/
def Backend.ofMemory (d : Directory) (admin : AdminStore) : Backend where
  groupNamesOfUser _ realm user := d.answer (Directory.entry d.userGroups realm user [])
  groupName _ realm group := d.answer (Directory.entry d.groupNames realm group "")
  roleNamesOfUser _ realm user := d.answer (Directory.entry d.userRoles realm user [])
  adminConfiguration := admin.answer

end RealmAccess
