/-
RealmAccess.Environment — the variables that a program is started with.

A variable holds bytes. Whoever reads it as text finds nothing if the bytes
are no text.
-/
import RealmAccess.Table

namespace RealmAccess

/-- The variables by name. -/
structure Environment where
  values : Table String ByteArray := ∅

namespace Environment

/-- The environment without variables. -/
def empty : Environment := ⟨∅⟩

instance : EmptyCollection Environment := ⟨empty⟩
instance : Inhabited Environment := ⟨empty⟩

/-- The text of a variable, if it is set and holds text. -/
def text? (env : Environment) (name : String) : Option String :=
  (env.values.find? name).bind String.fromUTF8?

/-- The environment with a variable set. -/
def set (env : Environment) (name : String) (value : ByteArray) : Environment :=
  ⟨env.values.insert name value⟩

@[simp] theorem find?_set (env : Environment) (name : String) (value : ByteArray) :
    (env.set name value).values.find? name = some value :=
  Table.find?_insert_self env.values name value

end Environment

end RealmAccess
