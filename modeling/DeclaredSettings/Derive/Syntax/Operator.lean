import DeclaredSettings.Derive.Syntax.Grammar

/-!
Binary operators: how strongly they bind, and the expressions that they make of operands.
-/

namespace DeclaredSettings.Derive

/-- How strongly an operator binds, from the weakest on. -/
inductive Precedence where
  | jump
  | assign
  | range
  | or
  | and
  | compare
  | bitOr
  | bitXor
  | bitAnd
  | shift
  | sum
  | product
  | cast
  deriving DecidableEq, Repr

namespace Precedence

/-- The place among all of them. -/
def rank : Precedence → Nat
  | jump => 0
  | assign => 1
  | range => 2
  | or => 3
  | and => 4
  | compare => 5
  | bitOr => 6
  | bitXor => 7
  | bitAnd => 8
  | shift => 9
  | sum => 10
  | product => 11
  | cast => 12

end Precedence

/-- The binary operators. One that starts with another comes first. -/
def binaryOperators : List (String × Precedence) :=
  [("+=", .assign), ("-=", .assign), ("*=", .assign), ("/=", .assign), ("%=", .assign),
    ("^=", .assign), ("&=", .assign), ("|=", .assign), ("<<=", .assign), (">>=", .assign),
    ("&&", .and), ("||", .or), ("<<", .shift), (">>", .shift), ("==", .compare),
    ("<=", .compare), ("!=", .compare), (">=", .compare), ("+", .sum), ("-", .sum),
    ("*", .product), ("/", .product), ("%", .product), ("^", .bitXor), ("&", .bitAnd),
    ("|", .bitOr), ("<", .compare), (">", .compare)]

/-- The binary operator that is next. -/
def binaryOperator? (cs : List Tree) : Option (String × Precedence) :=
  binaryOperators.find? fun operator => (Sign.mark operator.1).isAt cs

/-- Whether an assignment is next. -/
def startsAssignment (cs : List Tree) : Bool :=
  (Sign.mark "=").isAt cs && !(Sign.mark "=>").isAt cs

/-- How strongly the next operator binds; the weakest stands for none. -/
def nextPrecedence (cs : List Tree) : Precedence :=
  match binaryOperator? cs with
  | some (_, precedence) => precedence
  | none =>
    if startsAssignment cs then .assign
    else if (Sign.mark "..").isAt cs then .range
    else if (Sign.word "as").isAt cs then .cast
    else .jump

namespace Reader

open Sign

variable (g : Grammar)

/-- Refuses what cannot be put to a cast. -/
def behindCast : Reader Unit := do
  let cs ← rest
  if (mark ".").isAt cs && !(mark "..").isAt cs then
    if (word "await").isSecond cs then wrong (.behindCast "`.await`")
    else if ident.isSecond cs && ((group .parenthesis).isThird cs || (mark "::").isThird cs)
    then wrong (.behindCast "a method call")
    else wrong (.behindCast "a field access")
  else if (mark "?").isAt cs then wrong (.behindCast "`?`")
  else if (group .bracket).isAt cs then wrong (.behindCast "indexing")
  else if (group .parenthesis).isAt cs then wrong (.behindCast "a function call")

/-- The dots of a range. Tells whether they leave the end out. -/
def dots : Reader Bool := do
  let cs ← rest
  if (mark "..=").isAt cs then
    take (mark "..=")
    return false
  else if (mark "...").isAt cs then missing [mark "..="]
  else
    take (mark "..")
    return true

/-- Whether a range ends with its dots here. -/
def endsAtDots (structs : Bool) : Reader Bool := do
  let cs ← rest
  let ends := [",", ";", "?", "=>", "=", "+", "/", "%", "^", ">", "<=", "!=", "-=", "*=",
    "&=", "|=", "<<="]
  return cs.isEmpty || ends.any (fun text => (mark text).isAt cs)
    || (mark ".").isAt cs && !(mark "..").isAt cs
    || !structs && (group .brace).isAt cs || (word "as").isAt cs

mutual

/-- What operators of at least some strength make of an operand, with at most `room` of them
inside of each other.
-/
def operations (structs : Bool) (base : Precedence)
    : Nat → ExpressionShape → Reader ExpressionShape
  | 0, _ => throw .tooDeep
  | room + 1, left => do
    let cs ← rest
    -- A range is never on the left of an operator.
    if left = .range then return left
    match binaryOperator? cs with
    | some (text, precedence) =>
      if precedence.rank < base.rank then return left
      if precedence = .compare && left = .comparison then wrong .chained
      take (mark text)
      rightOperand structs precedence room
      let shape := if precedence = .compare then .comparison else .other
      operations structs base room shape
    | none =>
      if base.rank ≤ Precedence.assign.rank && startsAssignment cs then
        take (mark "=")
        rightOperand structs .assign room
        operations structs base room .other
      else if base.rank ≤ Precedence.range.rank && (mark "..").isAt cs then
        let isHalfOpen ← dots
        rangeEnd structs isHalfOpen room
        return .range
      else if base.rank ≤ Precedence.cast.rank && (word "as").isAt cs then
        take (word "as")
        let _ ← g.type false
        behindCast
        operations structs base room .other
      else return left

/-- The operand on the right of an operator of some strength. -/
def rightOperand (structs : Bool) (precedence : Precedence) : Nat → Reader Unit
  | 0 => throw .tooDeep
  | room + 1 => do
    let first ← g.operand structs
    strongerOperations structs precedence room first

/-- The operations on the right of an operator that bind more strongly. Assignments go to
the right too.
-/
def strongerOperations (structs : Bool) (precedence : Precedence)
    : Nat → ExpressionShape → Reader Unit
  | 0, _ => throw .tooDeep
  | room + 1, left => do
    let cs ← rest
    let next := nextPrecedence cs
    if precedence.rank < next.rank || next = precedence && precedence = .assign then
      let shape ← operations structs next room left
      -- Nothing is read where a range is on the left.
      if (← rest).length = cs.length then return
      strongerOperations structs precedence room shape

/-- The end of a range behind its dots, if there is one. -/
def rangeEnd (structs isHalfOpen : Bool) : Nat → Reader Unit
  | 0 => throw .tooDeep
  | room + 1 => do
    if isHalfOpen && (← endsAtDots structs) then return
    rightOperand structs .range room

end

/-- The room that operators need: none of them takes less than a token. -/
def operatorRoom : Reader Nat :=
  return 4 * ((← rest).length + 1)

/-- What the operators behind an operand make of it. -/
def withOperators (structs : Bool) (base : Precedence) (left : ExpressionShape)
    : Reader ExpressionShape := do
  operations g structs base (← operatorRoom) left

/-- An expression. -/
def expression (structs : Bool) : Reader ExpressionShape := do
  withOperators g structs .jump (← g.operand structs)

/-- A range without a start. -/
def dotsExpression (structs : Bool) : Reader Unit := do
  let isHalfOpen ← dots
  rangeEnd g structs isHalfOpen (← operatorRoom)

end Reader

end DeclaredSettings.Derive
