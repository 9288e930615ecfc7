/-
RealmAccess.Decimal.Shortest — the shortest decimal that reads back as a
given binary number, and its text.

The decimals that round to a number form an interval around it. Of the
grids of multiples of a power of ten the coarsest that meets the interval
gives the fewest digits; there the number's two neighbours on the grid are
tried and the nearer one is taken. All comparisons are between naturals.
-/
import RealmAccess.Decimal.Binary64

namespace RealmAccess.Decimal

open Binary64 (powerParts roundQuotient)

/-- A decimal `digits * 10 ^ scale`. -/
structure Short where
  digits : Nat
  scale : Int
  deriving DecidableEq

/-- The ends, in quarter units of the last place, of the decimals that round to a finite number. -/
def roundingEnds (significand : Nat) (exponent : Int) : Nat × Nat :=
  let below := if significand = Nat.pow 2 52 && Binary64.minExponent < exponent then 1 else 2
  (4 * significand - below, 4 * significand + 2)

/-- The grid point nearest to a positive finite number that rounds to it, if the grid `10 ^ scale` has one. -/
def onGrid (significand : Nat) (exponent scale : Int) : Option Short :=
  let (twoUp, twoDown) := powerParts 2 (exponent - 2)
  let (tenUp, tenDown) := powerParts 10 scale
  let unit := twoUp * tenDown
  let grid := tenUp * twoDown
  let (low, high) := roundingEnds significand exponent
  let inside (c : Nat) : Bool :=
    if significand % 2 = 0 then low * unit ≤ c * grid && c * grid ≤ high * unit
    else low * unit < c * grid && c * grid < high * unit
  let nearest := roundQuotient (4 * significand * unit) grid
  let floor := 4 * significand * unit / grid
  let other := if nearest = floor then floor + 1 else floor
  if 0 < nearest && inside nearest then some ⟨nearest, scale⟩
  else if 0 < other && inside other then some ⟨other, scale⟩
  else none

/-- The first grid, from a scale downwards, with a point that rounds to the number. -/
def firstGrid (significand : Nat) (exponent : Int) (scale : Int) : Nat → Short
  | 0 => ⟨0, 0⟩
  | steps + 1 =>
    match onGrid significand exponent scale with
    | some d => d
    | none => firstGrid significand exponent (scale - 1) steps

/-- The shortest decimal that rounds to a positive finite number.
No number reaches 10 ^ 309, and seventeen digits from 10 ^ -324 on always suffice. -/
def shortest (significand : Nat) (exponent : Int) : Short :=
  firstGrid significand exponent 309 660

/-- Where positional writing ends: the point stands more than `least` and at most `most` places
after the first digit, and an exponent is written otherwise. -/
structure Span where
  least : Int
  most : Int

/-- How numbers are written. -/
structure FloatStyle where
  /-- The range of positional writing; without one it is always positional. -/
  positional : Option Span

/-- Some zeros. -/
def zeros (n : Int) : List Char := List.replicate n.toNat '0'

/-- Digits with the point after the given number of them, and a digit on either side of it. -/
def withPoint (digits : List Char) (point : Int) : List Char :=
  let n : Int := digits.length
  if point ≤ 0 then '0' :: '.' :: zeros (-point) ++ digits
  else if n ≤ point then digits ++ zeros (point - n) ++ ['.', '0']
  else digits.take point.toNat ++ '.' :: digits.drop point.toNat

/-- Digits with the point after the first and a power of ten. -/
def withExponent (digits : List Char) (point : Int) : List Char :=
  let lead := match digits with
    | [] => []
    | [d] => [d]
    | d :: more => d :: '.' :: more
  lead ++ 'e' :: (toString (point - 1)).toList

/-- The text of a positive decimal. -/
def Short.text (style : FloatStyle) (d : Short) : List Char :=
  let digits := Nat.toDigits 10 d.digits
  let point : Int := digits.length + d.scale
  match style.positional with
  | none => withPoint digits point
  | some span =>
    if span.least < point && point ≤ span.most then withPoint digits point
    else withExponent digits point

/-- The text of a number of the 64 bit binary format. -/
def render (style : FloatStyle) : Binary64 → String
  | .notANumber => "NaN"
  | .infinite negative => if negative then "-inf" else "inf"
  | .finite negative s e =>
    let body := if s = 0 then ['0', '.', '0'] else (shortest s e).text style
    String.ofList (if negative then '-' :: body else body)

end RealmAccess.Decimal
