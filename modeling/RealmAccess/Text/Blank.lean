/-
RealmAccess.Text.Blank — the white space characters of Unicode.

A name made of white space only counts as empty. White space is the
property `White_Space`: the five ASCII control characters from tab to
carriage return, the space, and nineteen others; zero width characters do
not belong to it.
-/

namespace RealmAccess.Text

/-- Whether a character has the property `White_Space`. -/
def isBlank (c : Char) : Bool :=
  let n := c.toNat
  (0x09 ≤ n && n ≤ 0x0D) || n = 0x20 || n = 0x85 || n = 0xA0 || n = 0x1680
    || (0x2000 ≤ n && n ≤ 0x200A) || n = 0x2028 || n = 0x2029 || n = 0x202F
    || n = 0x205F || n = 0x3000

/-- Whether a text holds nothing but white space. -/
def allBlank (s : String) : Bool := s.toList.all isBlank

/-- ASCII white space is white space. -/
theorem isBlank_of_isWhitespace {c : Char} (h : c.isWhitespace = true) : isBlank c = true := by
  simp only [Char.isWhitespace, Bool.or_eq_true, decide_eq_true_eq] at h
  rcases h with ((rfl | rfl) | rfl) | rfl <;> decide

example : allBlank " \t\u2003\u3000\u0085" = true := by decide
example : allBlank "\u200b" = false ∧ allBlank "\u180e" = false ∧ allBlank "\x1f" = false := by decide

end RealmAccess.Text
