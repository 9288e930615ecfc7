/-
RealmAccess.Toml.Moment — dates and times in TOML.

A moment is a date, a time of day, or both with an optional offset from
Greenwich. Days must exist in their month; a minute may have a leap second.
A moment is shown with `T` between date and time, with seconds, with at
most nine places after them and none of those a final zero, and with `Z`
for an offset written so.
-/
import RealmAccess.Text.Digits

namespace RealmAccess.Toml

/-- The number of decimal digits at the front of a text, for exactly that many of them. -/
def fixedDigits? (count : Nat) (cs : List Char) : Option (Nat × List Char) :=
  if (cs.take count).length = count then
    (Text.number? 10 (cs.take count)).map fun n => (n, cs.drop count)
  else none

/-- The number of days of a month. -/
def daysIn (year month : Nat) : Nat :=
  if month = 2 then
    if year % 4 = 0 && (year % 100 ≠ 0 || year % 400 = 0) then 29 else 28
  else if month = 4 || month = 6 || month = 9 || month = 11 then 30
  else 31

/-- A number with two digits. -/
def twoDigits (n : Nat) : List Char := [Nat.digitChar (n / 10), Nat.digitChar (n % 10)]

/-- A date at the front of a text, as it is shown, and the rest. -/
def date? (cs : List Char) : Option (List Char × List Char) := do
  let (year, rest) ← fixedDigits? 4 cs
  let '-' :: rest := rest | none
  let (month, rest) ← fixedDigits? 2 rest
  let '-' :: rest := rest | none
  let (day, rest) ← fixedDigits? 2 rest
  if 1 ≤ month && month ≤ 12 && 1 ≤ day && day ≤ daysIn year month then some (cs.take 10, rest)
  else none

/-- The digits after the decimal point of a second, as they are shown. -/
def shownFraction (ds : List Char) : List Char :=
  match ((ds.take 9).reverse.dropWhile (· = '0')).reverse with
  | [] => []
  | shown => '.' :: shown

/-- The seconds at the front of a text, as they are shown, and the rest; they may be missing. -/
def seconds? : List Char → Option (List Char × List Char)
  | ':' :: rest =>
    (fixedDigits? 2 rest).bind fun (second, rest) =>
      if 60 < second then none
      else
        match rest with
        | '.' :: rest =>
          let (ds, rest) := rest.span Char.isDigit
          if ds = [] then none else some (':' :: twoDigits second ++ shownFraction ds, rest)
        | rest => some (':' :: twoDigits second, rest)
  | rest => some ([':', '0', '0'], rest)

/-- A time of day at the front of a text, as it is shown, and the rest. -/
def time? (cs : List Char) : Option (List Char × List Char) := do
  let (hour, rest) ← fixedDigits? 2 cs
  let ':' :: rest := rest | none
  let (minute, rest) ← fixedDigits? 2 rest
  let (seconds, rest) ← seconds? rest
  if hour ≤ 23 && minute ≤ 59 then some (twoDigits hour ++ ':' :: twoDigits minute ++ seconds, rest)
  else none

/-- An offset that makes up the whole text, as it is shown; it may be missing. -/
def offset? : List Char → Option (List Char)
  | [] => some []
  | ['Z'] | ['z'] => some ['Z']
  | sign :: rest =>
    if sign = '+' || sign = '-' then do
      let (hour, rest) ← fixedDigits? 2 rest
      let ':' :: rest := rest | none
      let (minute, []) ← fixedDigits? 2 rest | none
      if hour ≤ 23 && minute ≤ 59 then
        let sign := if hour = 0 && minute = 0 then '+' else sign
        some (sign :: twoDigits hour ++ ':' :: twoDigits minute)
      else none
    else none

/-- A moment that makes up the whole text, as it is shown. -/
def moment? (cs : List Char) : Option String :=
  match date? cs with
  | some (date, []) => some (String.ofList date)
  | some (date, mark :: rest) =>
    if mark = 'T' || mark = 't' || mark = ' ' then do
      let (time, rest) ← time? rest
      let offset ← offset? rest
      some (String.ofList (date ++ 'T' :: time ++ offset))
    else none
  | none =>
    match time? cs with
    | some (time, []) => some (String.ofList time)
    | _ => none

end RealmAccess.Toml
