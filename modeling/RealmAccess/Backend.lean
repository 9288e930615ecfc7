/-
RealmAccess.Backend — the services that the checks ask, as what they answer.

The identity provider knows the groups and roles of users and the names of
groups; the store of admin configurations knows which roles a realm allows.
A check asks with the actor's own token, so an answer may depend on it.
Every request has a value of type `Call`, so that a check can say what it
asked.
-/
import RealmAccess.Failure
import RealmAccess.Role

namespace RealmAccess

/-- A request to a service behind the checks. -/
inductive Call where
  /-- All authorization rows. -/
  | authorizations
  /-- The admin configuration of a realm. -/
  | adminConfiguration (realm : String)
  /-- The names of a user's groups. -/
  | groupNamesOfUser (token realm user : String)
  /-- The name of a group. -/
  | groupName (token realm group : String)
  /-- The names of a user's roles. -/
  | roleNamesOfUser (token realm user : String)
  deriving DecidableEq

/-- The answers of the services behind the checks. -/
structure Backend where
  /-- The names of a user's groups, given a token, a realm and the user. -/
  groupNamesOfUser : String → String → String → Except IdentityFailure (List String)
  /-- The name of a group, given a token, a realm and the group; empty if there is none. -/
  groupName : String → String → String → Except IdentityFailure String
  /-- The names of a user's roles, given a token, a realm and the user. -/
  roleNamesOfUser : String → String → String → Except IdentityFailure (List String)
  /-- The admin configuration of a realm. -/
  adminConfiguration : String → Except StoreFailure AdminConfiguration

end RealmAccess
