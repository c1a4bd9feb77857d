import DeclaredSettings.Derive.Syntax.Bound
import DeclaredSettings.Derive.Syntax.Operator
import DeclaredSettings.Derive.Syntax.Pattern

/-!
Expressions without binary operators: what they start with, and what is put behind that.
-/

namespace DeclaredSettings.Derive

/-- Whether an expression can start here, behind a keyword that needs none. -/
def startsExpression (cs : List Tree) : Bool :=
  let is (text : String) := (Sign.mark text).isAt cs
  let groups := [Delimiter.parenthesis, .bracket, .brace].map Sign.group
  Sign.anyIdent.isAt cs && !(Sign.word "as").isAt cs
    || (Sign.literal :: Sign.lifetime :: groups).any (·.isAt cs)
    || is "!" && !is "!="
    || is "-" && !is "-=" && !is "->"
    || is "*" && !is "*="
    || is "|" && !is "|="
    || is "&" && !is "&="
    || is "<" && !is "<=" && !is "<<="
    || is ".." || is "::" || is "#"

/-- Whether a closure starts here. -/
def startsClosure (cs : List Tree) : Bool :=
  (Sign.mark "|").isAt cs || (Sign.word "move").isAt cs || (Sign.word "static").isAt cs
    || (Sign.word "for").isAt cs && startsParameters cs.tail
    || (Sign.word "const").isAt cs && !(Sign.group .brace).isSecond cs
    || (Sign.word "async").isAt cs
      && ((Sign.mark "|").isSecond cs || (Sign.word "move").isSecond cs)

/-- Whether a block that runs later starts here. -/
def startsAsync (cs : List Tree) : Bool :=
  (Sign.word "async").isAt cs
    && ((Sign.group .brace).isSecond cs
      || (Sign.word "move").isSecond cs && (Sign.group .brace).isThird cs)

/-- Whether a path starts an expression here. -/
def startsPath (cs : List Tree) : Bool :=
  (Sign.ident :: Sign.mark "::" :: Sign.mark "<" :: Reader.pathWords).any (·.isAt cs)
    || (Sign.word "try").isAt cs && ((Sign.mark "!").isSecond cs || (Sign.mark "::").isSecond cs)

/-- Whether an expression that ends with its block starts here. -/
def startsBlock (cs : List Tree) : Bool :=
  let words := ["if", "while", "for", "loop", "match", "unsafe"].map Sign.word
  (Sign.group .brace :: Sign.lifetime :: words).any (·.isAt cs)
    || ((Sign.word "try").isAt cs || (Sign.word "const").isAt cs)
      && (Sign.group .brace).isSecond cs

/-- Whether a call of what the compiler brings along starts here. -/
def startsBuiltin (cs : List Tree) : Bool :=
  (Sign.word "builtin").isAt cs && (Sign.mark "#").isSecond cs

/-- Whether something is put behind an expression that is no range here. -/
def startsTrailer (cs : List Tree) : Bool :=
  [Sign.group .parenthesis, .group .bracket, .mark "?"].any (·.isAt cs)
    || (Sign.mark ".").isAt cs && !(Sign.mark "..").isAt cs

/-- Whether an expression that is taken over as it stands starts here. -/
def startsRaw (cs : List Tree) : Bool :=
  (Sign.word "become").isAt cs || startsBuiltin cs && !startsTrailer (cs.drop 4)

namespace ExpressionShape

/-- Whether a comma has to stand behind it in a list of arms. -/
def needsComma (shape : ExpressionShape) : Bool :=
  shape ≠ .block

/-- Whether a semicolon has to stand behind it to make it a statement. -/
def needsSemicolon (shape : ExpressionShape) : Bool :=
  shape ≠ .block && shape ≠ .bracedCall

end ExpressionShape

namespace Reader

open Sign

variable (g : Grammar)

/-- Expressions with commas between them. -/
def expressionList : Reader Unit := do
  let _ ← commaList (g.expression true)

/-! ### Behind an expression -/

/-- A point behind an expression, with the member or the call behind it. -/
def dotted : Reader Unit := do
  take (mark ".")
  match ← rest with
  | .literal text _ :: cs => do
    if isFloat text then
      writeIndices (text.splitOn '.')
      goOn cs
      if text.getLast? ≠ some '.' then return
  | .mark '-' _ _ :: .literal text _ :: _ =>
    if isFloat text then wrongBefore (negativeIndex (text.takeWhile (· != '.')))
  | _ => pure ()
  if ← takeIf (word "await") then return
  if ← member then
    if ← takeIf (mark "::") then
      let _ ← arguments g
      inside .parenthesis (expressionList g)
    else if ← sees (group .parenthesis) then
      inside .parenthesis (expressionList g)

/-- What is put behind an expression, at most `count` times: calls, members, indices and
question marks.
-/
def trailers : Nat → ExpressionShape → Reader ExpressionShape
  | 0, shape => return shape
  | count + 1, shape => do
    let cs ← rest
    if (group .parenthesis).isAt cs then
      inside .parenthesis (expressionList g)
      trailers count .other
    else if (mark ".").isAt cs && !(mark "..").isAt cs && shape ≠ .range then
      dotted g
      trailers count .other
    else if (group .bracket).isAt cs then
      inside .bracket do
        let _ ← g.expression true
      trailers count .other
    else if (mark "?").isAt cs && shape ≠ .range then
      take (mark "?")
      trailers count .other
    else return shape

/-- What is put behind an expression. -/
def withTrailers (shape : ExpressionShape) : Reader ExpressionShape := do
  trailers g (← rest).length shape

/-! ### Structs, calls of macros, tuples and arrays -/

/-- A field in the expression for a struct. -/
def fieldValue : Reader Unit := do
  skipAttributes g
  let named ← member
  if !named || (← sees (mark ":")) then
    take (mark ":")
    let _ ← g.expression true

/-- The fields in the expression for a struct, at most `count` of them. Two dots end them,
with another struct behind them or none.
-/
def fieldValues : Nat → Reader Unit
  | 0 => return
  | count + 1 => do
    if ← atEnd then return
    if ← takeIf (mark "..") then
      if !(← atEnd) then
        let _ ← g.expression true
    else
      fieldValue g
      if ← atEnd then return
      take (mark ",")
      fieldValues count

/-- A path, the call of a macro, or a struct. -/
def pathExpression (structs : Bool) : Reader ExpressionShape := do
  let shape ← qualifiedPath g true
  if ← seesCall shape then
    take (mark "!")
    return if ← takeBrackets then .bracedCall else .other
  if structs && (← sees (group .brace)) then
    inside .brace do fieldValues g ((← rest).length + 1)
  return .other

/-- An array, by its items or by one item and their number. -/
def arrayExpression : Reader Unit :=
  inside .bracket do
    if ← atEnd then return
    let _ ← g.expression true
    if ← atEnd then return
    if ← takeIf (mark ",") then expressionList g
    else if ← takeIf (mark ";") then
      let _ ← g.expression true
    else wrong .noCommaOrSemicolon

/-! ### Control -/

/-- A condition or a value in front of a block. -/
def head : Reader Unit := do
  let _ ← g.expression false

/-- A choice with its other branches, at most `count` of them. -/
def choice : Nat → Reader Unit
  | 0 => throw .tooDeep
  | count + 1 => do
    take (word "if")
    head g
    block g
    if ← takeIf (word "else") then
      if ← sees (word "if") then choice count
      else if ← sees (group .brace) then block g
      else missing [word "if", group .brace]

/-- A choice. -/
def choiceExpression : Reader Unit := do
  choice g ((← rest).length + 1)

/-- A loop of any kind. -/
def loopExpression : Reader Unit := do
  if ← takeIf (word "while") then head g
  else if ← takeIf (word "for") then
    let _ ← alternatives g
    take (word "in")
    head g
  else take (word "loop")
  fullBlock g

/-- A loop or a block behind a label. -/
def labelled : Reader Unit := do
  take lifetime
  take (mark ":")
  if ← seesAny [word "while", word "for", word "loop"] then loopExpression g
  else if ← sees (group .brace) then fullBlock g
  else wrong .noLoop

/-- An arm of a match: its pattern, perhaps a guard, and its body. -/
def arm : Reader Unit := do
  skipAttributes g
  let _ ← alternatives g
  if ← takeIf (word "if") then
    let _ ← g.expression true
  take (mark "=>")
  let shape ← g.early
  if shape.needsComma && !(← atEnd) then take (mark ",") else skipIf (mark ",")

/-- A match. -/
def matchExpression : Reader Unit := do
  take (word "match")
  head g
  inside .brace do
    innerAttributes g
    let _ ← repeated do
      if ← atEnd then return none
      arm g
      return some ()

/-- An expression that ends with its block. -/
def blockExpression : Reader Unit := do
  let cs ← rest
  if (word "if").isAt cs then choiceExpression g
  else if (word "match").isAt cs then matchExpression g
  else if (word "try").isAt cs then
    take (word "try")
    block g
  else if [word "unsafe", word "const"].any (·.isAt cs) then
    take anyIdent
    fullBlock g
  else if (group .brace).isAt cs then fullBlock g
  else if lifetime.isAt cs then labelled g
  else loopExpression g

/-- The attributes in front of a statement or the body of an arm. They are lost in front of
an expression that is taken over as it stands.
-/
def keptAttributes : Reader Unit := do
  let ((), code) ← captured (skipAttributes g)
  if !startsRaw (← rest) then write code

/-- An expression that is a statement or the body of an arm. One that ends with its block
ends there, unless a point or a question mark follows.
-/
def earlyExpression : Reader ExpressionShape := do
  keptAttributes g
  let cs ← rest
  if startsBlock cs && !startsClosure cs then
    blockExpression g
    let cs ← rest
    if (mark ".").isAt cs && !(mark "..").isAt cs || (mark "?").isAt cs then
      withOperators g true .jump (← withTrailers g .block)
    else return .block
  else withOperators g true .jump (← g.operand true)

/-! ### Other keywords -/

/-- An argument of a closure. -/
def closureArgument : Reader Unit := do
  skipAttributes g
  let _ ← g.pattern
  if ← takeIf (mark ":") then
    let _ ← g.type true

/-- A closure. Only with a type of its result its body has to be a block. -/
def closure (structs : Bool) : Reader Unit := do
  let _ ← binderIfAny g
  skipIf (word "const")
  skipIf (word "static")
  skipIf (word "async")
  skipIf (word "move")
  take (mark "|")
  let _ ← listed (sees (mark "|")) "," (closureArgument g)
  take (mark "|")
  if ← takeIf (mark "->") then
    let _ ← g.type true
    block g
  else
    let _ ← g.expression structs

/-- A way out of a loop or a block, perhaps with a value. -/
def breakExpression (structs : Bool) : Reader Unit := do
  take (word "break")
  let cs ← rest
  -- The label of a loop that is the value could be taken for the place to leave.
  if lifetime.isAt cs && (mark ":").isSecond cs then
    let _ ← g.expression true
    wrongBefore .labelBehindBreak
  skipIf lifetime
  let cs ← rest
  if startsExpression cs && (structs || !(group .brace).isAt cs) then
    let _ ← g.expression true

/-- A pattern that is tried in a condition. -/
def letExpression (structs : Bool) : Reader Unit := do
  take (word "let")
  let _ ← alternatives g
  take (mark "=")
  let _ ← withOperators g structs .compare (← g.operand structs)

/-- A keyword with an expression behind it, or with none. -/
def valueIfAny (keyword : String) : Reader Unit := do
  take (word keyword)
  if startsExpression (← rest) then
    let _ ← g.expression true

/-- A call of what the compiler brings along, which is taken over as it stands. -/
def builtinCall : Reader Unit :=
  asItStands do
    take (word "builtin")
    take (mark "#")
    take ident
    take (group .parenthesis)

/-! ### Operands -/

/-- An expression to which nothing is put in front or behind. -/
def atom (structs : Bool) : Reader ExpressionShape := do
  let cs ← rest
  if literal.isAt cs then take literal
  else if startsAsync cs then
    take (word "async")
    skipIf (word "move")
    block g
  else if startsClosure cs then closure g structs
  else if startsBuiltin cs then
    builtinCall
    return .raw
  else if startsPath cs then return ← pathExpression g structs
  else if (group .parenthesis).isAt cs then inside .parenthesis (expressionList g)
  else if (word "break").isAt cs then breakExpression g structs
  else if (word "continue").isAt cs then
    take (word "continue")
    skipIf lifetime
  else if (word "return").isAt cs then valueIfAny g "return"
  else if (word "become").isAt cs then
    asItStands do
      take (word "become")
      let _ ← g.expression true
    return .raw
  else if (group .bracket).isAt cs then arrayExpression g
  else if (word "let").isAt cs then letExpression g structs
  else if (word "yield").isAt cs then valueIfAny g "yield"
  else if startsBlock cs then
    blockExpression g
    return .block
  else if (mark "..").isAt cs then
    dotsExpression g structs
    return .range
  else if (word "_").isAt cs then take (word "_")
  else wrong .noExpression
  return .other

/-- A reference, behind its mark. -/
def referenceTarget (structs : Bool) : Reader ExpressionShape := do
  let cs ← rest
  let isRaw := (word "raw").isAt cs
    && ((word "mut").isSecond cs || (word "const").isSecond cs)
  if isRaw then
    take (word "raw")
    take (if ← sees (word "mut") then word "mut" else word "const")
  else skipIf (word "mut")
  g.operand structs

/-- An expression without binary operators. -/
def operand (structs : Bool) : Reader ExpressionShape :=
  asItStandsWhen (· = .raw) do
    let front ← attributes g
    let cs ← rest
    if (mark "&").isAt cs then
      take (mark "&")
      let _ ← referenceTarget g structs
      return .other
    else if let some sign := [mark "*", mark "!", mark "-"].find? (·.isAt cs) then
      take sign
      let _ ← g.operand structs
      return .other
    else
      let shape ← withTrailers g (← atom g structs)
      if shape = .range && !front.isEmpty then wrongBefore .attributesOnRange
      return shape

end Reader

end DeclaredSettings.Derive
