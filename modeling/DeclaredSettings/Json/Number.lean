import DeclaredSettings.Json.Fault
import DeclaredSettings.Value

/-!
Numbers in JSON text. A whole number within 64 bits is kept exactly. Any other number is a
significand of 64 bits and a power of ten, which are multiplied or divided in floating point;
so the last bit may differ from the nearest floating-point number.
-/

namespace DeclaredSettings.Json

open Text

/-- A number being gathered from its digits: `significand * 10 ^ exponent`. -/
structure Gathered where
  significand : Nat
  exponent : Int
  deriving DecidableEq, Repr

namespace Gathered

/-- The first significand that is too long: the first number of more than 64 bits. -/
def limit : Nat := 18446744073709551616

/-- Adds the digits in front of the point. From the first digit on that would make the
significand too long, digits only raise the exponent.
-/
def whole (g : Gathered) : List Nat → Gathered
  | [] => g
  | d :: ds =>
    if g.significand * 10 + d < limit then whole ⟨g.significand * 10 + d, g.exponent⟩ ds
    else ⟨g.significand, g.exponent + (ds.length + 1)⟩

/-- Adds the digits behind the point. From the first digit on that would make the
significand too long, digits are dropped.
-/
def fraction (g : Gathered) : List Nat → Gathered
  | [] => g
  | d :: ds =>
    if g.significand * 10 + d < limit then
      fraction ⟨g.significand * 10 + d, g.exponent - 1⟩ ds
    else g

end Gathered

/-- The power of ten with an exponent of at most 308, which is the nearest floating-point
number.
-/
def powerOfTen (n : Nat) : Float :=
  Float.ofScientific 1 false n

/-- Multiplies or divides by a power of ten. Below `10 ^ (-308)` it divides in steps; two
steps bring every significand to zero. Nothing is returned for a number that is too big.
-/
def scaled : Nat → Float → Int → Option Float
  | steps, f, e =>
    if 0 ≤ e then
      if e ≤ 308 then
        let product := f * powerOfTen e.toNat
        if product.isFinite then some product else none
      else if f == 0 then some f else none
    else if -308 ≤ e then some (f / powerOfTen (-e).toNat)
    else if f == 0 then some f
    else
      match steps with
      | 0 => some 0
      | steps + 1 => scaled steps (f / powerOfTen 308) (e + 308)

/-- The number with this sign and these digits, or nothing when it is too big. -/
def Gathered.float? (g : Gathered) (negative : Bool) : Option Float :=
  (scaled 3 g.significand.toFloat g.exponent).map fun f => if negative then -f else f

/-- The digits of a run of digit characters. -/
def digitsOf (cs : List Char) : List Nat :=
  cs.map fun c => c.toNat - 48

/-- The number that a run of digits stands for. -/
def natOf (digits : List Nat) : Nat :=
  digits.foldl (fun n d => n * 10 + d) 0

/-- A whole number as a value: exact within the limits, and a floating-point number beyond
them. Negative zero is a floating-point number too.
-/
def wholeValue (negative : Bool) (n : Nat) : Value :=
  if negative then
    if 0 < n && Value.minInt ≤ -(n : Int) then .int (-(n : Int)) else .float (-n.toFloat)
  else .int n

/-- A floating-point number as a value, or the fault of one that is too big. -/
def floatValue (negative : Bool) (g : Gathered) (behind : Cursor)
    : Except Fault (Value × Cursor) :=
  match g.float? negative with
  | some f => .ok (.float f, behind)
  | none => .error ⟨.numberTooBig, behind.position⟩

/-- The greatest power of ten that can be written. -/
def greatestExponent : Nat := 2147483647

/-- Where the digits of an exponent pass the greatest one: the run up to the digit that
does.
-/
def passing : Nat → List Char → List Char → Option (List Char)
  | _, _, [] => none
  | n, before, c :: cs =>
    let next := n * 10 + (c.toNat - 48)
    if greatestExponent < next then some (before ++ [c])
    else passing next (before ++ [c]) cs

/-- The exponent part, from behind its mark, and with it the end of the number. -/
def exponentPart (negative : Bool) (g : Gathered) (cur : Cursor)
    : Except Fault (Value × Cursor) :=
  let (downward, cur) :=
    match cur.rest with
    | '+' :: _ => (false, cur.advance)
    | '-' :: _ => (true, cur.advance)
    | _ => (false, cur)
  let (digits, behind) := cur.run Char.isDigit
  if digits = [] then
    if cur.rest = [] then .error ⟨.endInValue, cur.position⟩
    else .error ⟨.badNumber, cur.pastNextByte⟩
  else
    match passing 0 [] digits with
    | some run =>
      if g.significand ≠ 0 && !downward then
        .error ⟨.numberTooBig, cur.position.pastAll run⟩
      else .ok (.float (if negative then -0.0 else 0.0), behind)
    | none =>
      let shift : Int := natOf (digitsOf digits)
      let exponent := if downward then g.exponent - shift else g.exponent + shift
      floatValue negative ⟨g.significand, exponent⟩ behind

/-- What follows the digits behind the point: an exponent part, or nothing more. -/
def afterFraction (negative : Bool) (g : Gathered) (cur : Cursor)
    : Except Fault (Value × Cursor) :=
  match cur.rest with
  | 'e' :: _ | 'E' :: _ => exponentPart negative g cur.advance
  | _ => floatValue negative g cur

/-- The digits behind the point, of which there has to be one. -/
def fractionPart (negative : Bool) (g : Gathered) (cur : Cursor)
    : Except Fault (Value × Cursor) :=
  let (digits, behind) := cur.run Char.isDigit
  if digits = [] then
    if cur.rest = [] then .error ⟨.endInValue, cur.position⟩
    else .error ⟨.badNumber, cur.pastNextByte⟩
  else afterFraction negative (g.fraction (digitsOf digits)) behind

/-- What follows the digits in front of the point. -/
def afterWhole (negative : Bool) (digits : List Nat) (cur : Cursor)
    : Except Fault (Value × Cursor) :=
  let g := Gathered.whole ⟨0, 0⟩ digits
  match cur.rest with
  | '.' :: _ => fractionPart negative g cur.advance
  | 'e' :: _ | 'E' :: _ => exponentPart negative g cur.advance
  | _ =>
    if natOf digits < Gathered.limit then .ok (wholeValue negative (natOf digits), cur)
    else floatValue negative g cur

/-- A number from its first digit on. No digit may follow a leading zero. -/
def unsigned (negative : Bool) (cur : Cursor) : Except Fault (Value × Cursor) :=
  match cur.rest with
  | [] => .error ⟨.endInValue, cur.position⟩
  | '0' :: _ =>
    let behind := cur.advance
    match behind.rest with
    | c :: _ =>
      if c.isDigit then .error ⟨.badNumber, behind.pastNextByte⟩
      else afterWhole negative [0] behind
    | [] => afterWhole negative [0] behind
  | _ =>
    let (digits, behind) := cur.run Char.isDigit
    if digits = [] then .error ⟨.badNumber, cur.pastNextByte⟩
    else afterWhole negative (digitsOf digits) behind

/-- A number, from its sign or its first digit on. -/
def number (cur : Cursor) : Except Fault (Value × Cursor) :=
  match cur.rest with
  | '-' :: _ => unsigned true cur.advance
  | _ => unsigned false cur

end DeclaredSettings.Json
