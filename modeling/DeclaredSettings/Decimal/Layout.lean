import DeclaredSettings.Decimal.Shortest

/-!
How a decimal is laid out as text: in full near one, and with a power of ten elsewhere.
-/

namespace DeclaredSettings.Decimal

/-- The decisions of a number format. Exponents are those of the first digit. -/
structure Layout where
  /-- The least exponent that is written in full. -/
  leastFull : Int
  /-- The greatest exponent that is written in full. -/
  greatestFull : Int
  /-- What stands behind a whole number that is written in full. -/
  wholeMark : List Char
  /-- What stands in front of the power of ten. -/
  exponentMark : Char
  /-- The sign of a power of ten that is not negative. -/
  plusSign : List Char

/-- The decimal digits of a natural number, without leading zeros. -/
def digitChars (n : Nat) : List Char :=
  Nat.toDigits 10 n

/-- The text of a natural number. -/
def natText (n : Nat) : String :=
  String.ofList (digitChars n)

/-- A whole number in decimal digits, with a minus sign in front of a negative one. -/
def intChars : Int → List Char
  | .ofNat n => digitChars n
  | .negSucc n => '-' :: digitChars (n + 1)

/-- A decimal written in full, its point standing after the digit of exponent zero. -/
def Layout.full (layout : Layout) (digits : List Char) (exponent : Int) : List Char :=
  let places := digits.length
  if exponent < 0 then
    ['0', '.'] ++ List.replicate (-exponent - 1).toNat '0' ++ digits
  else if exponent + 1 < places then
    digits.take (exponent + 1).toNat ++ ['.'] ++ digits.drop (exponent + 1).toNat
  else
    digits ++ List.replicate (exponent + 1 - places).toNat '0' ++ layout.wholeMark

/-- A decimal with one digit in front of the point and a power of ten. -/
def Layout.scientific (layout : Layout) (digits : List Char) (exponent : Int)
    : List Char :=
  let mantissa :=
    match digits with
    | first :: second :: more => first :: '.' :: second :: more
    | _ => digits
  let sign := if exponent < 0 then ['-'] else layout.plusSign
  mantissa ++ layout.exponentMark :: sign ++ digitChars exponent.natAbs

/-- The text of a decimal. -/
def Layout.decimal (layout : Layout) (x : Point) : List Char :=
  let digits := digitChars x.digits
  let exponent := x.exponent + digits.length - 1
  if layout.leastFull ≤ exponent && exponent ≤ layout.greatestFull then
    layout.full digits exponent
  else
    layout.scientific digits exponent

/-- The text of a finite floating-point number: its sign, also that of a zero, and its
shortest decimal.
-/
def Layout.float (layout : Layout) (x : Float) : List Char :=
  let sign := if x.toBits.toNat < 9223372036854775808 then [] else ['-']
  let magnitude := Dyadic.ofFloat x
  if magnitude.significand = 0 then sign ++ '0' :: layout.wholeMark
  else sign ++ layout.decimal (shortest magnitude)

end DeclaredSettings.Decimal
