import DeclaredSettings.Json.Number
import DeclaredSettings.Json.String

/-!
Numbers in TOML. Digits may be grouped by single underscores; whole numbers of 64 bits are
exact, and a floating-point number is the nearest to its decimal.
-/

namespace DeclaredSettings.Toml

open Json (natOf digitsOf hexValue?)

/-- The digits of a run in which underscores stand between digits only. -/
def ungrouped? (isDigit : Char → Bool) : List Char → Option (List Char)
  | [] => none
  | [c] => if isDigit c then some [c] else none
  | c :: '_' :: rest =>
    if isDigit c then (ungrouped? isDigit rest).map (c :: ·) else none
  | c :: rest => if isDigit c then (ungrouped? isDigit rest).map (c :: ·) else none

/-- The sign of a number and what stands behind it. -/
def signed : List Char → Bool × List Char
  | '-' :: rest => (true, rest)
  | '+' :: rest => (false, rest)
  | rest => (false, rest)

/-- The digits of a whole number in decimal, which has no leading zero. -/
def decimalDigits? (cs : List Char) : Option (List Char) := do
  let digits ← ungrouped? Char.isDigit cs
  match digits with
  | '0' :: _ :: _ => none
  | digits => some digits

/-- A whole number in decimal, with or without a sign. -/
def decimal? (cs : List Char) : Option Int := do
  let (negative, rest) := signed cs
  let n : Int := natOf (digitsOf (← decimalDigits? rest))
  return if negative then -n else n

/-- A number in one of the bases that a mark in front gives. -/
def based? (base : Nat) (isDigit : Char → Bool) (cs : List Char) : Option Int := do
  let digits ← ungrouped? isDigit cs
  return digits.foldl (fun n c => n * base + ((hexValue? c).getD 0 : Nat)) 0

/-- A whole number: in decimal with or without a sign, or without a sign in another base. -/
def whole? (cs : List Char) : Option Value := do
  let n ←
    match cs with
    | '0' :: 'x' :: rest => based? 16 (fun c => (hexValue? c).isSome) rest
    | '0' :: 'o' :: rest => based? 8 (fun c => '0' ≤ c && c ≤ '7') rest
    | '0' :: 'b' :: rest => based? 2 (fun c => c == '0' || c == '1') rest
    | cs => decimal? cs
  if Value.minInt ≤ n && n ≤ Value.maxInt then some (.int n) else none

/-- The nearest floating-point number to `n * 10 ^ e`, unless it is too big. The exponent is
looked at first, so that no power is formed that is out of reach anyway.
-/
def nearest? (n : Nat) (e : Int) : Option Float :=
  let exponent := e + (Decimal.digitChars n).length
  if n = 0 || exponent < -400 then some 0.0
  else if 400 < exponent then none
  else
    let x := if 0 ≤ e then Float.ofScientific n false e.toNat
      else Float.ofScientific n true (-e).toNat
    if x.isFinite then some x else none

/-- The exponent from behind its mark. It may have leading zeros. -/
def exponent? (cs : List Char) : Option Int := do
  let (negative, rest) := signed cs
  let n : Int := natOf (digitsOf (← ungrouped? Char.isDigit rest))
  return if negative then -n else n

/-- The part behind the point and the exponent, each of which may be missing but not both:
the digits of the one and the value of the other.
-/
def tail? (cs : List Char) : Option (List Char × Int) := do
  let (point, behind) := cs.span fun c => c != 'e' && c != 'E'
  let fraction ←
    match point with
    | [] => some []
    | '.' :: digits => ungrouped? Char.isDigit digits
    | _ => none
  let exponent ←
    match behind with
    | [] => if point = [] then none else some 0
    | _ :: rest => exponent? rest
  return (fraction, exponent)

/-- A floating-point number. The ones that are not finite have words of their own, and
become null.
-/
def float? (cs : List Char) : Option Value := do
  let (negative, rest) := signed cs
  if rest = "inf".toList || rest = "nan".toList then some .null
  else do
    let (front, behind) := rest.span fun c => c.isDigit || c == '_'
    let whole ← decimalDigits? front
    let (fraction, exponent) ← tail? behind
    let n := natOf (digitsOf (whole ++ fraction))
    let x ← nearest? n (exponent - fraction.length)
    return .float (if negative then -x else x)

end DeclaredSettings.Toml
