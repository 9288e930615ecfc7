/-
RealmAccess.Text.Quoted — text in quotation marks, as messages and log
fields show it.

A quotation mark and a backslash are preceded by a backslash, the usual
control characters have their letter, any other unprintable character is
named by its number in braces, and everything else stands for itself. So
the closing quotation mark is never in doubt.
-/
import RealmAccess.Text.Unprintable

namespace RealmAccess.Text

/-- The digits of a number in base sixteen, in small letters and without leading zeros. -/
def hexDigits (n : Nat) : List Char := Nat.toDigits 16 n

/-- How one character is written between quotation marks. -/
def escapeChar (c : Char) : List Char :=
  if c = '"' then ['\\', '"']
  else if c = '\\' then ['\\', '\\']
  else if c = '\n' then ['\\', 'n']
  else if c = '\r' then ['\\', 'r']
  else if c = '\t' then ['\\', 't']
  else if c = '\x00' then ['\\', '0']
  else if isUnprintable c then ['\\', 'u', '{'] ++ hexDigits c.toNat ++ ['}']
  else [c]

/-- The text in quotation marks. -/
def quote (s : String) : String :=
  String.ofList ('"' :: s.toList.flatMap escapeChar ++ ['"'])

/-- The quoted texts between square brackets, separated by a comma and a space. -/
def quoteList (l : List String) : String :=
  "[" ++ String.intercalate ", " (l.map quote) ++ "]"

example : quote "a\"b\\c\nd\te\r" = "\"a\\\"b\\\\c\\nd\\te\\r\"" := by decide
example : quoteList ["toe", "it's", ""] = "[\"toe\", \"it's\", \"\"]" := by decide

end RealmAccess.Text
