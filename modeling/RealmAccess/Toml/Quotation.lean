/-
RealmAccess.Toml.Quotation — texts between quotation marks in TOML.

Between apostrophes every character stands for itself; between double
quotation marks a backslash begins an escape. Tripled marks enclose a text
of several lines: a line end right after the opening is dropped, one or two
further marks may stand before the closing ones, and a backslash at the end
of a line swallows all white space up to the next character.
-/
import RealmAccess.Text.Digits
import RealmAccess.Toml.Layout

namespace RealmAccess.Toml

/-! ## Escapes -/

/-- The character with a number written as the first digits of a text, in base sixteen. -/
def numbered? (count : Nat) (cs : List Char) : Option Char :=
  if count ≤ cs.length then
    (Text.number? 16 (cs.take count)).bind fun n => if n.isValidChar then some (Char.ofNat n) else none
  else none

/-- The letter escapes. -/
def letterEscape? : Char → Option Char
  | 'b' => some '\x08'
  | 't' => some '\t'
  | 'n' => some '\n'
  | 'f' => some '\x0c'
  | 'r' => some '\r'
  | 'e' => some '\x1b'
  | '"' => some '"'
  | '\\' => some '\\'
  | _ => none

/-- How many digits follow the letter of a numbered escape. -/
def escapeDigits? : Char → Option Nat
  | 'x' => some 2
  | 'u' => some 4
  | 'U' => some 8
  | _ => none

/-- Whether a character is a blank or part of a line end. -/
def isSpaceOrBreak (c : Char) : Bool := isSpace c || c = '\n' || c = '\r'

/-- Replace the escapes of a text. A backslash before a line end is allowed in texts of several lines. -/
def unescape (severalLines : Bool) (cs : List Char) : Option (List Char) :=
  match cs with
  | [] => some []
  | '\\' :: c :: rest =>
    match letterEscape? c, escapeDigits? c with
    | some d, _ => (unescape severalLines rest).map (d :: ·)
    | none, some count =>
      (numbered? count rest).bind fun d => (unescape severalLines (rest.drop count)).map (d :: ·)
    | none, none =>
      if severalLines && (lineEnd? (skipSpaces (c :: rest))).isSome then
        unescape severalLines (rest.dropWhile isSpaceOrBreak)
      else none
  | '\\' :: [] => none
  | c :: rest => (unescape severalLines rest).map (c :: ·)
termination_by cs.length
decreasing_by
  · simp only [List.length_cons]; omega
  · simp only [List.length_cons, List.length_drop]; omega
  · have : (rest.dropWhile isSpaceOrBreak).length ≤ rest.length :=
      (List.dropWhile_sublist isSpaceOrBreak).length_le
    simp only [List.length_cons]; omega
  · simp only [List.length_cons]; omega

/-! ## Bodies -/

/-- Split a text after its first mark that no backslash precedes, all on one line. -/
def quotedBody : List Char → Option (List Char × List Char)
  | [] => none
  | '"' :: rest => some ([], rest)
  | '\\' :: '"' :: rest => (quotedBody rest).map fun (body, after) => ('\\' :: '"' :: body, after)
  | '\\' :: '\\' :: rest => (quotedBody rest).map fun (body, after) => ('\\' :: '\\' :: body, after)
  | c :: rest =>
    if isVisible c then (quotedBody rest).map fun (body, after) => (c :: body, after) else none

/-- Split a text after its first apostrophe, all on one line. -/
def literalBody : List Char → Option (List Char × List Char)
  | [] => none
  | '\'' :: rest => some ([], rest)
  | c :: rest =>
    if isVisible c then (literalBody rest).map fun (body, after) => (c :: body, after) else none

/-- Split a text after its first three marks in a row, of which up to two more may belong to the
body; a backslash protects the mark after it if escapes are in use. -/
def tripleBody (mark : Char) (escapes : Bool) : List Char → Option (List Char × List Char)
  | [] | [_] => none
  | '\r' :: '\n' :: rest =>
    (tripleBody mark escapes rest).map fun (body, after) => ('\r' :: '\n' :: body, after)
  | c :: d :: rest =>
    if escapes && c = '\\' && (d = mark || d = '\\') then
      (tripleBody mark escapes rest).map fun (body, after) => (c :: d :: body, after)
    else if c = mark && d = mark && rest.head? = some mark then
      let extra := (rest.tail.takeWhile (· = mark)).take 2
      some (extra, rest.tail.drop extra.length)
    else if c = '\n' || isVisible c then
      (tripleBody mark escapes (d :: rest)).map fun (body, after) => (c :: body, after)
    else none

/-- The text without a line end at its front. -/
def dropLineEnd (cs : List Char) : List Char := (lineEnd? cs).getD cs

/-- A text between quotation marks on one line, and what follows it. -/
def quotation? : List Char → Option (List Char × List Char)
  | '"' :: rest =>
    (quotedBody rest).bind fun (body, after) => (unescape false body).map fun text => (text, after)
  | '\'' :: rest => literalBody rest
  | _ => none

/-- A text between quotation marks on one line or several, and what follows it. -/
def anyQuotation? : List Char → Option (List Char × List Char)
  | '"' :: '"' :: '"' :: rest =>
    (tripleBody '"' true (dropLineEnd rest)).bind fun (body, after) =>
      (unescape true body).map fun text => (text, after)
  | '\'' :: '\'' :: '\'' :: rest => tripleBody '\'' false (dropLineEnd rest)
  | cs => quotation? cs

end RealmAccess.Toml
