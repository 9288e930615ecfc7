/-
RealmAccess.Matrix.Key — how a target is named in the matrix.

A stored target is a raw string. Two strings are reserved: `*` names every
target, and `/` names every realm but the primary one. `Key.parse` reads a
raw string and `Key.token` writes it back; reading is injective, so no two
names meet under one key (`parse_inj`).
-/
import RealmAccess.Table

namespace RealmAccess

/-- The token for any target. -/
def anyToken : String := "*"

/-- The token for any realm except the primary one. -/
def nonPrimaryToken : String := "/"

/-- The primary realm, unless a service names another. -/
def defaultPrimaryRealm : String := "master"

/-- A target realm or a target group, as the matrix stores it. -/
inductive Key where
  /-- Any target. -/
  | wildcard
  /-- Any realm except the primary one. -/
  | nonPrimary
  /-- The target of that name. -/
  | exact (name : String)
  deriving DecidableEq, Inhabited

namespace Key

/-- Read a stored name: the two reserved tokens, or the name itself. -/
def parse (raw : String) : Key :=
  if raw = anyToken then .wildcard
  else if raw = nonPrimaryToken then .nonPrimary
  else .exact raw

/-- The stored name of a key. -/
def token : Key → String
  | .wildcard => anyToken
  | .nonPrimary => nonPrimaryToken
  | .exact name => name

@[simp] theorem token_wildcard : token .wildcard = anyToken := rfl
@[simp] theorem token_nonPrimary : token .nonPrimary = nonPrimaryToken := rfl
@[simp] theorem token_exact (name : String) : token (.exact name) = name := rfl

/-- Reading a name and writing it gives the name back. -/
@[simp] theorem token_parse (raw : String) : (parse raw).token = raw := by
  unfold parse
  split
  · simp [*]
  · split <;> simp [*]

/-- Two names are read as one key only if they are equal. -/
theorem parse_inj {a b : String} : parse a = parse b ↔ a = b :=
  ⟨fun h => by simpa using congrArg token h, fun h => h ▸ rfl⟩

theorem parse_eq_wildcard {raw : String} : parse raw = .wildcard ↔ raw = anyToken :=
  parse_inj (b := anyToken)

theorem parse_eq_nonPrimary {raw : String} : parse raw = .nonPrimary ↔ raw = nonPrimaryToken :=
  parse_inj (b := nonPrimaryToken)

/-! ## Order

Keys are listed by token. The rank only separates a reserved key from an
exact key that happens to be spelled like it.
-/

/-- Which of the three forms a key has. -/
def rank : Key → Nat
  | .wildcard => 0
  | .nonPrimary => 1
  | .exact _ => 2

theorem eq_of_token_of_rank {a b : Key} (ht : a.token = b.token) (hr : a.rank = b.rank) : a = b := by
  cases a <;> cases b <;> simp_all [rank]

instance : Ord Key := ⟨compareLex (compareOn token) (compareOn rank)⟩

theorem compare_def (a b : Key) :
    compare a b = (compare a.token b.token).then (compare a.rank b.rank) := rfl

instance : Std.TransOrd Key :=
  inferInstanceAs (Std.TransCmp (compareLex (compareOn token) (compareOn rank)))

instance : Std.LawfulEqOrd Key where
  eq_of_compare {a b} h := by
    rw [compare_def, Ordering.then_eq_eq] at h
    exact eq_of_token_of_rank (Std.LawfulEqCmp.eq_of_compare h.1) (Std.LawfulEqCmp.eq_of_compare h.2)

end Key

end RealmAccess
