/-
RealmAccess.Text.Lines — a text as the list of its lines.

A line ends at a line feed, and a carriage return directly before the line
feed belongs to the ending. What follows the last line feed is a line only
if it is not empty.
-/

namespace RealmAccess.Text

/-- The lines of a text, without their endings. -/
def lines : List Char → List (List Char)
  | [] => []
  | '\n' :: rest => [] :: lines rest
  | '\r' :: '\n' :: rest => [] :: lines rest
  | c :: rest =>
    match lines rest with
    | [] => [[c]]
    | line :: more => (c :: line) :: more

/-- Whether the text ends with a line feed. -/
def endsLine (cs : List Char) : Bool := cs.getLast? == some '\n'

/-- Put lines together with one line feed between two of them, and one after the last if asked for. -/
def unlines (finalBreak : Bool) : List (List Char) → List Char
  | [] => []
  | [line] => if finalBreak then line ++ ['\n'] else line
  | line :: more => line ++ '\n' :: unlines finalBreak more

example : lines "a\r\nb\r\r\n\nc\r".toList = ["a", "b\r", "", "c\r"].map String.toList := by decide
example : unlines true (lines "a\nb\n".toList) = "a\nb\n".toList := by decide
example : unlines false (lines "a\r\nb".toList) = "a\nb".toList := by decide

end RealmAccess.Text
