/-
RealmAccess.Toml.Layout — what separates the parts of a TOML text.

Blanks are tabs and spaces; a line ends with a line feed, perhaps after a
carriage return, which may stand nowhere else. A comment reaches to the
end of its line. Of the control characters only the tab may appear in a
comment or in text between quotation marks.
-/

namespace RealmAccess.Toml

/-- Whether a character may appear in a comment and between quotation marks on one line. -/
def isVisible (c : Char) : Bool := c = '\t' || (0x20 ≤ c.toNat && c.toNat ≠ 0x7F)

/-- Whether a character is a blank within a line. -/
def isSpace (c : Char) : Bool := c = ' ' || c = '\t'

/-- The text after its blanks. -/
def skipSpaces (cs : List Char) : List Char := cs.dropWhile isSpace

/-- The text after a line end, if it begins with one. -/
def lineEnd? : List Char → Option (List Char)
  | '\n' :: rest => some rest
  | '\r' :: '\n' :: rest => some rest
  | _ => none

/-- The text after the rest of a comment, up to its line end. -/
def skipComment : List Char → Option (List Char)
  | [] => some []
  | c :: rest =>
    if (lineEnd? (c :: rest)).isSome then some (c :: rest)
    else if isVisible c then skipComment rest
    else none

/-- The text after blanks, line ends and comments, given whether it begins within a comment. -/
def skipLayoutFrom : Bool → List Char → Option (List Char)
  | _, [] => some []
  | _, '\n' :: rest => skipLayoutFrom false rest
  | _, '\r' :: '\n' :: rest => skipLayoutFrom false rest
  | true, c :: rest => if isVisible c then skipLayoutFrom true rest else none
  | false, '#' :: rest => skipLayoutFrom true rest
  | false, c :: rest => if isSpace c then skipLayoutFrom false rest else some (c :: rest)

/-- The text after blanks, line ends and comments. -/
def skipLayout (cs : List Char) : Option (List Char) := skipLayoutFrom false cs

/-- The text after the end of a line, which may hold blanks and a comment only. -/
def finishLine (cs : List Char) : Option (List Char) :=
  match skipSpaces cs with
  | [] => some []
  | '#' :: rest => (skipComment rest).map fun cs => (lineEnd? cs).getD cs
  | cs => lineEnd? cs

end RealmAccess.Toml
