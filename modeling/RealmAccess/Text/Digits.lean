/-
RealmAccess.Text.Digits — digits and the numbers they stand for.

Digits go up to base sixteen, the ones above nine being letters of either
size. A number is the value of its digits, the first counting most.
-/

namespace RealmAccess.Text

/-- The value of a digit of a base up to sixteen. -/
def digitValue? (base : Nat) (c : Char) : Option Nat :=
  let value :=
    if '0' ≤ c && c ≤ '9' then some (c.toNat - '0'.toNat)
    else if 'a' ≤ c && c ≤ 'f' then some (c.toNat - 'a'.toNat + 10)
    else if 'A' ≤ c && c ≤ 'F' then some (c.toNat - 'A'.toNat + 10)
    else none
  value.filter (· < base)

/-- The number with some digits, given by their values. -/
def ofDigits (base : Nat) (ds : List Nat) : Nat := ds.foldl (fun n d => n * base + d) 0

/-- The number with some digits; none if one of them is no digit of the base. -/
def number? (base : Nat) (cs : List Char) : Option Nat := (cs.mapM (digitValue? base)).map (ofDigits base)

example : number? 16 "1fF".toList = some 511 ∧ number? 8 "18".toList = none := by decide

end RealmAccess.Text
