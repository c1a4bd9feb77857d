import DeclaredSettings.Json.Number

/-!
Dates and times in TOML: which texts are one, and the one way in which each is written.
-/

namespace DeclaredSettings.Toml

open Json (natOf digitsOf)

/-- The number of a run of exactly `count` digits, and what stands behind it. -/
def digits? (count : Nat) (cs : List Char) : Option (Nat × List Char) :=
  let run := cs.take count
  if run.length = count && run.all Char.isDigit then
    some (natOf (digitsOf run), cs.drop count)
  else none

/-- What stands behind one expected character. -/
def expect? (c : Char) : List Char → Option (List Char)
  | [] => none
  | d :: rest => if d = c then some rest else none

/-- Whether a year has a leap day. -/
def isLeapYear (year : Nat) : Bool :=
  year % 4 = 0 && (year % 100 != 0 || year % 400 = 0)

/-- The number of days of a month. -/
def daysInMonth (year month : Nat) : Nat :=
  match month with
  | 2 => if isLeapYear year then 29 else 28
  | 4 | 6 | 9 | 11 => 30
  | _ => 31

/-- A number in decimal digits, filled up with zeros in front. -/
def padded (width n : Nat) : List Char :=
  let digits := Decimal.digitChars n
  List.replicate (width - digits.length) '0' ++ digits

/-- A date, and what stands behind it. -/
def date? (cs : List Char) : Option (List Char × List Char) := do
  let (year, cs) ← digits? 4 cs
  let (month, cs) ← digits? 2 (← expect? '-' cs)
  let (day, cs) ← digits? 2 (← expect? '-' cs)
  if 1 ≤ month && month ≤ 12 && 1 ≤ day && day ≤ daysInMonth year month then
    return (padded 4 year ++ '-' :: padded 2 month ++ '-' :: padded 2 day, cs)
  else none

/-- The seconds of a time with their fraction, of which nine digits count and zeros at its
end do not. A time may have none.
-/
def seconds? (cs : List Char) : Option (List Char × List Char) :=
  match cs with
  | ':' :: cs => do
    let (second, cs) ← digits? 2 cs
    if 60 < second then none
    else
      match cs with
      | '.' :: cs =>
        let (run, cs) := cs.span Char.isDigit
        if run = [] then none
        else
          let counted := (run.take 9).reverse.dropWhile (· == '0') |>.reverse
          let fraction := if counted = [] then [] else '.' :: counted
          some (padded 2 second ++ fraction, cs)
      | _ => some (padded 2 second, cs)
  | _ => some (['0', '0'], cs)

/-- A time of day, and what stands behind it. -/
def time? (cs : List Char) : Option (List Char × List Char) := do
  let (hour, cs) ← digits? 2 cs
  let (minute, cs) ← digits? 2 (← expect? ':' cs)
  let (seconds, cs) ← seconds? cs
  if hour ≤ 23 && minute ≤ 59 then
    return (padded 2 hour ++ ':' :: padded 2 minute ++ ':' :: seconds, cs)
  else none

/-- The offset of a time, which may be missing. No offset is negative that is zero. -/
def offset? (cs : List Char) : Option (List Char) :=
  match cs with
  | [] => some []
  | ['Z'] | ['z'] => some ['Z']
  | sign :: cs => do
    let (hour, cs) ← digits? 2 cs
    let (minute, cs) ← digits? 2 (← expect? ':' cs)
    if cs = [] && (sign == '+' || sign == '-') && hour ≤ 23 && minute ≤ 59 then
      let sign := if hour = 0 && minute = 0 then '+' else sign
      return sign :: padded 2 hour ++ ':' :: padded 2 minute
    else none

/-- A date, a time, or both and an offset, as it is written: the two are joined by a `T`,
and a time has seconds.
-/
def dateTime? (cs : List Char) : Option (List Char) :=
  match date? cs with
  | some (date, []) => some date
  | some (date, joint :: behind) =>
    if joint == 'T' || joint == 't' || joint == ' ' then do
      let (time, rest) ← time? behind
      let offset ← offset? rest
      return date ++ 'T' :: time ++ offset
    else none
  | none =>
    match time? cs with
    | some (time, []) => some time
    | _ => none

end DeclaredSettings.Toml
