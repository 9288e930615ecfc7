/-
RealmAccess.Context — who is acting, as far as the request says.

The authentication layer fills a context once and the checks only read it.
Every value may be missing. The access token, the realm and the groups are
asked for by name, and a missing one is a fault of its own; missing roles
count as none.
-/
import RealmAccess.Uuid

namespace RealmAccess

/-- The identity of the actor of a request. -/
structure Context where
  accessToken : Option String := none
  realm : Option String := none
  userId : Option String := none
  username : Option String := none
  groups : Option (List String) := none
  roles : Option (List String) := none
  correlationId : Option String := none
  deriving DecidableEq, Inhabited

/-- A value that some checks cannot do without. -/
inductive ContextValue where
  | accessToken
  | realm
  | groups
  deriving DecidableEq

/-- The name of a context value. -/
def ContextValue.name : ContextValue → String
  | .accessToken => "access_token"
  | .realm => "realm"
  | .groups => "groups"

/-- The message for a missing value. -/
def ContextValue.missingMessage (value : ContextValue) : String :=
  "Missing request context value: " ++ value.name

namespace Context

/-- A value, or its name if it is missing. -/
def require {α : Type} (name : ContextValue) : Option α → Except ContextValue α
  | some value => .ok value
  | none => .error name

/-- The access token, which must be there. -/
def requireAccessToken (c : Context) : Except ContextValue String := require .accessToken c.accessToken

/-- The realm, which must be there. -/
def requireRealm (c : Context) : Except ContextValue String := require .realm c.realm

/-- The groups, which must be there. -/
def requireGroups (c : Context) : Except ContextValue (List String) := require .groups c.groups

/-- The roles; none if the context has no list of them. -/
def roleNames (c : Context) : List String := c.roles.getD []

/-- The context with a correlation identifier: its own, or else the fresh one. -/
def ensureCorrelationId (c : Context) (fresh : String) : Context :=
  match c.correlationId with
  | some _ => c
  | none => { c with correlationId := some fresh }

end Context

end RealmAccess
