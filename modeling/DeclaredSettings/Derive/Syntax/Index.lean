import DeclaredSettings.Derive.Lexer
import DeclaredSettings.Derive.Syntax.Reader

/-!
Members of structs and tuples, which are named or numbered. Two numbers with a point between
them are one literal.
-/

namespace DeclaredSettings.Derive

/-- The value of a whole number without a suffix, as it is written. -/
def indexValue? (text : List Char) : Option Nat :=
  let (base, cs) :=
    match text with
    | '0' :: 'x' :: rest => (16, rest)
    | '0' :: 'o' :: rest => (8, rest)
    | '0' :: 'b' :: rest => (2, rest)
    | cs => (10, cs)
  let cs := cs.filter (· != '_')
  let digits := cs.filterMap Json.hexValue?
  if digits = [] || digits.length ≠ cs.length || digits.any (base ≤ ·) then none
  else some (digits.foldl (fun n d => n * base + d) 0)

/-- Whether a number has a point or an exponent. -/
def isFloat (text : List Char) : Bool :=
  Sign.isNumber text && (behindFloatDigits? text).isSome

namespace Reader

open Sign

/-- The greatest index of a member. -/
def greatestIndex : Nat := 4294967295

/-- What is wrong with a number behind a minus sign as the index of a member. -/
def negativeIndex (text : List Char) : Objection :=
  if isFloat text then .noInteger
  else if (indexValue? text).isSome then .noDigit
  else .suffixOnIndex

/-- Writes the index of a member. -/
def writeIndex (text : List Char) : Reader Unit := do
  match indexValue? text with
  | none => wrongBefore (if isFloat text then .noInteger else .suffixOnIndex)
  | some n =>
    if n ≤ greatestIndex then write [.token (Decimal.natText n)]
    else wrongBefore .greatIndex

/-- Writes indices with points between them. Behind the last point there may be none. -/
def writeIndices : List (List Char) → Reader Unit
  | [] => return
  | [last] => if last.isEmpty then return else writeIndex last
  | first :: others => do
    writeIndex first
    write [.token "."]
    writeIndices others

/-- A member. Tells whether it is named. -/
def member : Reader Bool := do
  match ← rest with
  | .literal text _ :: cs => do
    if isNumber text && !isFloat text then
      writeIndex text
      goOn cs
      return false
    else wrong .noMember
  | .mark '-' _ _ :: .literal text _ :: _ =>
    if isNumber text && !isFloat text then wrongBefore (negativeIndex text)
    else wrong .noMember
  | cs => do
    if ident.isAt cs then
      take ident
      return true
    else wrong .noMember

end Reader

end DeclaredSettings.Derive
