/-
RealmAccess.Json — JSON texts read as documents.

Of several members of an object under one name the last stays, and the
members come in ascending order of their names. A number without fraction
and exponent is an integer if it fits a signed or an unsigned word of 64
bits; any other is a floating point number, and so is a zero with a minus
sign. Every step of reading takes a character or opens a list or an
object, so twice the length of the text bounds the number of steps.
-/
import RealmAccess.Document
import RealmAccess.Table
import RealmAccess.Text.Digits

namespace RealmAccess.Json

/-- Whether a character is white space between the parts of a text. -/
def isSpace (c : Char) : Bool := c = ' ' || c = '\t' || c = '\n' || c = '\r'

/-- The text after its white space. -/
def skipSpaces (cs : List Char) : List Char := cs.dropWhile isSpace

/-! ## Strings -/

/-- The letter escapes. -/
def letterEscape? : Char → Option Char
  | '"' => some '"'
  | '\\' => some '\\'
  | '/' => some '/'
  | 'b' => some '\x08'
  | 'f' => some '\x0c'
  | 'n' => some '\n'
  | 'r' => some '\r'
  | 't' => some '\t'
  | _ => none

/-- The character for two units, the first of which is a high surrogate. -/
def paired? (high low : Nat) : Option Char :=
  if 0xDC00 ≤ low && low < 0xE000 then some (Char.ofNat (0x10000 + (high - 0xD800) * 0x400 + (low - 0xDC00)))
  else none

/-- A string after its opening mark, and what follows its closing one. -/
def string? : List Char → Option (List Char × List Char)
  | [] => none
  | '"' :: rest => some ([], rest)
  | '\\' :: 'u' :: a :: b :: c :: d :: rest =>
    match Text.number? 16 [a, b, c, d] with
    | none => none
    | some high =>
      if 0xD800 ≤ high && high < 0xDC00 then
        match rest with
        | '\\' :: 'u' :: a :: b :: c :: d :: rest =>
          ((Text.number? 16 [a, b, c, d]).bind (paired? high)).bind fun x => (string? rest).map fun (s, rest) => (x :: s, rest)
        | _ => none
      else if high.isValidChar then (string? rest).map fun (s, rest) => (Char.ofNat high :: s, rest)
      else none
  | '\\' :: c :: rest =>
    (letterEscape? c).bind fun x => (string? rest).map fun (s, rest) => (x :: s, rest)
  | c :: rest =>
    if 0x20 ≤ c.toNat then (string? rest).map fun (s, rest) => (c :: s, rest) else none

/-! ## Numbers -/

/-- The number with some decimal digits. -/
def ofDigits (ds : List Char) : Nat := (Text.number? 10 ds).getD 0

/-- A fraction at the front of a text, without its point; it may be missing. -/
def fraction? : List Char → Option (List Char × List Char)
  | '.' :: rest =>
    match rest.span Char.isDigit with
    | ([], _) => none
    | r => some r
  | rest => some ([], rest)

/-- The digits of an exponent after its sign. -/
def exponentDigits? (negative : Bool) (cs : List Char) : Option (Option Int × List Char) :=
  match cs.span Char.isDigit with
  | ([], _) => none
  | (ds, rest) => some (some (if negative then -ofDigits ds else ofDigits ds), rest)

/-- An exponent at the front of a text; it may be missing. -/
def exponent? : List Char → Option (Option Int × List Char)
  | c :: rest =>
    if c = 'e' || c = 'E' then
      match rest with
      | '-' :: rest => exponentDigits? true rest
      | '+' :: rest => exponentDigits? false rest
      | rest => exponentDigits? false rest
    else some (none, c :: rest)
  | [] => some (none, [])

/-- The value of a number without fraction and exponent. -/
def integer (negative : Bool) (n : Nat) : Document :=
  if negative then
    if 0 < n && n ≤ Nat.pow 2 63 then .int (-n) else .float (Binary64.ofDecimal true n 0)
  else if n < Nat.pow 2 64 then .int n
  else .float (Binary64.ofDecimal false n 0)

/-- A number at the front of a text, and what follows it. -/
def number? (cs : List Char) : Option (Document × List Char) := do
  let (negative, cs) := match cs with
    | '-' :: rest => (true, rest)
    | cs => (false, cs)
  let (whole, rest) := cs.span Char.isDigit
  let (fraction, rest) ← fraction? rest
  let (exponent, rest) ← exponent? rest
  if whole.isEmpty || (whole.head? = some '0' && 1 < whole.length) then none
  else if fraction.isEmpty && exponent.isNone then some (integer negative (ofDigits whole), rest)
  else
    some (.float (Binary64.ofDecimal negative (ofDigits (whole ++ fraction))
      (exponent.getD 0 - fraction.length)), rest)

/-! ## Values -/

mutual

/-- A value and what follows it, given the number of steps left. -/
def valueFrom? : Nat → List Char → Option (Document × List Char)
  | 0, _ => none
  | n + 1, cs =>
    match skipSpaces cs with
    | 'n' :: 'u' :: 'l' :: 'l' :: rest => some (.null, rest)
    | 't' :: 'r' :: 'u' :: 'e' :: rest => some (.bool true, rest)
    | 'f' :: 'a' :: 'l' :: 's' :: 'e' :: rest => some (.bool false, rest)
    | '"' :: rest => (string? rest).map fun (s, rest) => (.string (String.ofList s), rest)
    | '[' :: rest =>
      match skipSpaces rest with
      | ']' :: rest => some (.list [], rest)
      | rest => (itemsFrom? n rest).map fun (items, rest) => (.list items, rest)
    | '{' :: rest =>
      match skipSpaces rest with
      | '}' :: rest => some (.table [], rest)
      | rest => (membersFrom? n rest).map fun (members, rest) => (.table (Table.ofList members).entries, rest)
    | cs => number? cs

/-- The items of a list up to its end, and what follows it. -/
def itemsFrom? : Nat → List Char → Option (List Document × List Char)
  | 0, _ => none
  | n + 1, cs =>
    (valueFrom? n cs).bind fun (item, rest) =>
      match skipSpaces rest with
      | ',' :: rest => (itemsFrom? n rest).map fun (items, rest) => (item :: items, rest)
      | ']' :: rest => some ([item], rest)
      | _ => none

/-- The members of an object up to its end, and what follows it. -/
def membersFrom? : Nat → List Char → Option (List (String × Document) × List Char)
  | 0, _ => none
  | n + 1, cs =>
    match skipSpaces cs with
    | '"' :: rest =>
      (string? rest).bind fun (name, rest) =>
        match skipSpaces rest with
        | ':' :: rest =>
          (valueFrom? n rest).bind fun (value, rest) =>
            match skipSpaces rest with
            | ',' :: rest =>
              (membersFrom? n rest).map fun (members, rest) => ((String.ofList name, value) :: members, rest)
            | '}' :: rest => some ([(String.ofList name, value)], rest)
            | _ => none
        | _ => none
    | _ => none

end

/-- The document that a text stands for. -/
def read? (text : String) : Option Document :=
  match valueFrom? (2 * text.length + 2) text.toList with
  | some (d, rest) => if (skipSpaces rest).isEmpty then some d else none
  | none => none

end RealmAccess.Json
