/-
RealmAccess.Toml.Key — the names of fields and tables in TOML.

A name is bare, of ASCII letters, digits, hyphens and underscores, or
stands between quotation marks on one line. Names joined by points make a
path.
-/
import RealmAccess.Toml.Quotation

namespace RealmAccess.Toml

/-- Whether a character may stand in a bare name. -/
def isBare (c : Char) : Bool := c.isAlphanum || c = '-' || c = '_'

/-- A name and what follows it. -/
def name? (cs : List Char) : Option (String × List Char) :=
  match quotation? cs with
  | some (text, rest) => some (String.ofList text, rest)
  | none =>
    match cs.span isBare with
    | ([], _) => none
    | (bare, rest) => some (String.ofList bare, rest)

/-- A path of names, for at most the given number of them, and what follows it. -/
def pathFrom? : Nat → List Char → Option (List String × List Char)
  | 0, _ => none
  | n + 1, cs =>
    (name? cs).bind fun (name, rest) =>
      match skipSpaces rest with
      | '.' :: rest => (pathFrom? n (skipSpaces rest)).map fun (path, rest) => (name :: path, rest)
      | rest => some ([name], rest)

/-- A path of names, and what follows it after blanks. -/
def path? (cs : List Char) : Option (List String × List Char) := pathFrom? cs.length cs

/-- A path and a character that must follow it; what comes before the last name leads to it. -/
def keyBefore? (mark : Char) (cs : List Char) : Option (List String × String × List Char) :=
  (path? cs).bind fun (path, rest) =>
    match path.getLast?, rest with
    | some key, c :: rest => if c = mark then some (path.dropLast, key, rest) else none
    | _, _ => none

end RealmAccess.Toml
