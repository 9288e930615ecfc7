/-
RealmAccess.Toml.Number — integers and floating point numbers in TOML.

Digits may be parted by single underscores. A decimal number has no
leading zero; integers may also be written in base 16, 8 or 2, without a
sign. A floating point number has a fraction, an exponent or both, or is
infinite or no number; one too large to be finite is refused, as is an
integer that fits no 128 bits.
-/
import RealmAccess.Document
import RealmAccess.Text.Digits

namespace RealmAccess.Toml

open Text (digitValue? ofDigits)

/-! ## Digits -/

/-- The values of digits parted by single underscores; there is one at least. -/
def digits? (base : Nat) : List Char → Option (List Nat)
  | [] => none
  | [c] => (digitValue? base c).map ([·])
  | c :: '_' :: rest =>
    (digitValue? base c).bind fun d => (digits? base rest).map (d :: ·)
  | c :: rest => (digitValue? base c).bind fun d => (digits? base rest).map (d :: ·)

/-- The digits of a decimal number without leading zeros. -/
def decimalDigits? (cs : List Char) : Option (List Nat) :=
  match digits? 10 cs with
  | some (0 :: _ :: _) => none
  | ds => ds

/-- A text after its sign, and whether the sign is negative. -/
def splitSign : List Char → Bool × List Char
  | '-' :: rest => (true, rest)
  | '+' :: rest => (false, rest)
  | cs => (false, cs)

/-! ## Integers -/

/-- An integer as it is written, of any size. -/
def integer? (cs : List Char) : Option Int :=
  match cs with
  | '0' :: 'x' :: rest => (digits? 16 rest).map fun ds => ofDigits 16 ds
  | '0' :: 'o' :: rest => (digits? 8 rest).map fun ds => ofDigits 8 ds
  | '0' :: 'b' :: rest => (digits? 2 rest).map fun ds => ofDigits 2 ds
  | cs =>
    let (negative, rest) := splitSign cs
    (decimalDigits? rest).map fun ds => if negative then -ofDigits 10 ds else ofDigits 10 ds

/-- Whether an integer fits 128 bits, signed or not. -/
def fits (i : Int) : Bool := -Int.pow 2 127 ≤ i && i < Int.pow 2 128

/-! ## Floating point numbers -/

/-- The value of the exponent; none if it is malformed. -/
def exponent? (cs : List Char) : Option Int :=
  let (negative, rest) := splitSign cs
  (digits? 10 rest).map fun ds => if negative then -ofDigits 10 ds else ofDigits 10 ds

/-- Split a text before its first character that satisfies a condition. -/
def cutAt (p : Char → Bool) (cs : List Char) : List Char × List Char := cs.span (!p ·)

/-- The digits and the scale of an unsigned decimal with a fraction, an exponent or both. -/
def decimal? (cs : List Char) : Option (Nat × Int) :=
  let (mantissa, exponent) := cutAt (fun c => c = 'e' || c = 'E') cs
  let (whole, fraction) := cutAt (· = '.') mantissa
  match fraction, exponent with
  | [], [] => none
  | fraction, exponent =>
    (decimalDigits? whole).bind fun ds =>
      (if fraction = [] then some [] else digits? 10 fraction.tail).bind fun fs =>
        (if exponent = [] then some 0 else exponent? exponent.tail).map fun e =>
          (ofDigits 10 (ds ++ fs), e - fs.length)

/-- A floating point number; none if it is malformed or too large. -/
def float? (cs : List Char) : Option Binary64 :=
  let (negative, rest) := splitSign cs
  if rest = ['i', 'n', 'f'] then some (.infinite negative)
  else if rest = ['n', 'a', 'n'] then some .notANumber
  else
    match decimal? rest with
    | none => none
    | some (digits, scale) =>
      match Binary64.ofDecimal negative digits scale with
      | .infinite _ => none
      | x => some x

/-- A number. -/
def number? (cs : List Char) : Option Document :=
  match integer? cs with
  | some i => if fits i then some (.int i) else none
  | none => (float? cs).map .float

end RealmAccess.Toml
