/-
RealmAccess.Decimal.Binary64 — the numbers of the 64 bit binary format.

A finite number is a significand below 2 ^ 53 times a power of two that is
at least 2 ^ -1074. `ofDecimal` rounds a decimal to the nearest such number
and a tie to the even significand, in exact arithmetic on naturals, so no
machine float is involved.
-/

namespace RealmAccess

/-- A number of the 64 bit binary format. -/
inductive Binary64 where
  /-- The significand times two to the exponent, with a sign. -/
  | finite (negative : Bool) (significand : Nat) (exponent : Int)
  | infinite (negative : Bool)
  | notANumber
  deriving DecidableEq, Inhabited

namespace Binary64

/-- The smallest exponent of a finite number. -/
def minExponent : Int := -1074

/-- The largest exponent of a finite number. -/
def maxExponent : Int := 971

/-- A quotient rounded to the nearest natural, a tie to the even one. -/
def roundQuotient (num den : Nat) : Nat :=
  let q := num / den
  let r := num % den
  if 2 * r < den then q
  else if den < 2 * r then q + 1
  else if q % 2 = 0 then q
  else q + 1

/-- A power of a base as numerator and denominator. -/
def powerParts (base : Nat) (exponent : Int) : Nat × Nat :=
  (base.pow exponent.toNat, base.pow (-exponent).toNat)

/-- The exponent at which a positive quotient has a significand of 53 bits, or the smallest one. -/
def exponentOf (num den : Nat) : Int :=
  let guess : Int := (Nat.log2 num : Int) - (Nat.log2 den : Int) - 52
  let (up, down) := powerParts 2 guess
  let exact := if num * down < Nat.pow 2 52 * (den * up) then guess - 1 else guess
  max exact minExponent

/-- The number nearest to a positive quotient. -/
def ofQuotient (negative : Bool) (num den : Nat) : Binary64 :=
  let e := exponentOf num den
  let (up, down) := powerParts 2 e
  let s := roundQuotient (num * down) (den * up)
  let (s, e) := if s = Nat.pow 2 53 then (Nat.pow 2 52, e + 1) else (s, e)
  if maxExponent < e then .infinite negative else .finite negative s e

/-- The number nearest to a decimal `digits * 10 ^ scale`.
Beyond 10 ^ 310 every number is infinite and below 10 ^ -345 it is zero, so no larger power is computed. -/
def ofDecimal (negative : Bool) (digits : Nat) (scale : Int) : Binary64 :=
  let magnitude : Int := scale + (Nat.toDigits 10 digits).length
  if digits = 0 || magnitude < -345 then .finite negative 0 minExponent
  else if 311 < magnitude then .infinite negative
  else
    let (up, down) := powerParts 10 scale
    ofQuotient negative (digits * up) down

example : ofDecimal false 15 (-1) = .finite false (3 * Nat.pow 2 51) (-52) := by decide +kernel
example : ofDecimal false 5 (-324) = .finite false 1 (-1074) := by decide +kernel

end Binary64

end RealmAccess
