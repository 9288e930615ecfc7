/-
RealmAccess.Uuid — random identifiers (version 4) as text.

An identifier has 32 digits of base sixteen in small letters, in groups of
8, 4, 4, 4 and 12 with hyphens between. The first digit of the third group
names the version and the first of the fourth the variant; all others are
random. The layout is a text of its own, and both the writer and the reader
walk along it, so the reader accepts what the writer wrote (`isV4_v4`).
-/

namespace RealmAccess.Uuid

/-- The layout: `x` stands for a random digit, `v` for the variant digit, all else for itself. -/
def layout : List Char := "xxxxxxxx-xxxx-4xxx-vxxx-xxxxxxxxxxxx".toList

/-- The digit of base sixteen for a number below sixteen. -/
def digit (n : Fin 16) : Char :=
  ['0', '1', '2', '3', '4', '5', '6', '7', '8', '9', 'a', 'b', 'c', 'd', 'e', 'f'][n]

/-- Whether a character is a digit of base sixteen in a small letter. -/
def isDigit (c : Char) : Bool := ('0' ≤ c && c ≤ '9') || ('a' ≤ c && c ≤ 'f')

theorem isDigit_digit : ∀ n : Fin 16, isDigit (digit n) = true := by decide

/-- The last four bits of a number. -/
def nibble (bits : Nat) : Fin 16 := ⟨bits % 16, Nat.mod_lt _ (by decide)⟩

/-- The variant digit is one of `8`, `9`, `a` and `b`. -/
def variantNibble (bits : Nat) : Fin 16 := ⟨8 + bits % 4, by omega⟩

/-- Fill a layout from the last bits of a number on. -/
def fill : List Char → Nat → List Char
  | [], _ => []
  | 'x' :: rest, bits => digit (nibble bits) :: fill rest (bits / 16)
  | 'v' :: rest, bits => digit (variantNibble bits) :: fill rest (bits / 4)
  | c :: rest, bits => c :: fill rest bits

/-- Whether a text has a layout; the variant may be any digit. -/
def fits : List Char → List Char → Bool
  | [], [] => true
  | p :: layout, c :: text =>
    (if p = 'x' || p = 'v' then isDigit c else c == p) && fits layout text
  | _, _ => false

/-- The identifier made of some random bits. -/
def v4 (bits : Nat) : String := String.ofList (fill layout bits)

/-- Whether a text is an identifier of version 4 in small letters. -/
def isV4 (s : String) : Bool := fits layout s.toList

theorem fits_fill (pattern : List Char) (bits : Nat) : fits pattern (fill pattern bits) = true := by
  fun_induction fill pattern bits with
  | case1 => rfl
  | case2 rest bits ih => simp [fits, ih, isDigit_digit]
  | case3 rest bits ih => simp [fits, ih, isDigit_digit]
  | case4 c rest bits hx hv ih => simp [fits, ih]; grind

theorem isV4_v4 (bits : Nat) : isV4 (v4 bits) = true := by
  simp [isV4, v4, fits_fill]

end RealmAccess.Uuid
