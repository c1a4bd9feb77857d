import DeclaredSettings.Derive.Syntax.Block

/-!
Paths, and the arguments of their segments.
-/

namespace DeclaredSettings.Derive

/-- What is to be known of a path. -/
structure PathShape where
  /-- Whether it is one segment without colons in front. -/
  single : Bool
  /-- Whether no segment has arguments. -/
  plain : Bool
  /-- The length of the empty list of arguments at its end, if it has no arguments there. -/
  spare : Option Nat
  deriving DecidableEq, Repr

/-- One argument of a path: whether it is a lifetime, its code, and whether a comma
follows.
-/
structure Argument where
  isLifetime : Bool
  code : List Code
  comma : Bool

namespace Argument

/-- The code of an argument with its comma. -/
def written (argument : Argument) : List Code :=
  argument.code ++ if argument.comma then [.token ","] else []

/-- Adds an argument, with a comma in front if one is needed. -/
def add (front : List Code × Bool) (next : Argument) : List Code × Bool :=
  let (code, separated) := front
  (code ++ (if separated then [] else [.token ","]) ++ next.written, next.comma)

/-- The code of some arguments: lifetimes come first, and a comma is supplied where the
order leaves one out.
-/
def joined (arguments : List Argument) : List Code :=
  let lifetimes := arguments.filter (·.isLifetime)
  let others := arguments.filter (!·.isLifetime)
  let front := lifetimes.flatMap written
  let separated := (lifetimes.getLast?.map (·.comma)).getD true
  (others.foldl add (front, separated)).1

end Argument

namespace Reader

open Sign

variable (g : Grammar)

/-- The value of a constant: a literal, a name or a block. -/
def constant : Reader Unit := do
  if ← sees literal then take literal
  else if ← sees ident then take ident
  else if ← sees (group .brace) then fullBlock g
  else missing []

/-- One argument of a path: a lifetime, a constant, a type, or the binding of a name. Tells
whether it is a lifetime.
-/
def argument : Reader Bool := do
  let cs ← rest
  if lifetime.isAt cs && !(mark "+").isSecond cs then
    take lifetime
    return true
  else if ← seesAny [literal, group .brace] then
    constant g
    return false
  else
    if (← g.type true) = .name then
      if ← takeIf (mark "=") then
        if ← seesAny [literal, group .brace] then constant g
        else
          let _ ← g.type true
      else if ← takeIf (mark ":") then
        let _ ← chained (seesAny [mark ",", mark ">"]) "+" (g.bound ⟨false, true⟩)
    return false

/-- Arguments or parameters in angle brackets, in the order in which they are written. A
reader of one tells whether it is a lifetime.
-/
def angleList (item : Reader Bool) : Reader (List Argument) := do
  let step : Reader (Option Argument) := do
    if ← sees (mark ">") then return none
    let (isLifetime, code) ← captured item
    if ← sees (mark ">") then return some ⟨isLifetime, code, false⟩
    let _ ← captured (take (mark ","))
    return some ⟨isLifetime, code, true⟩
  take (mark "<")
  let list ← repeated step
  write (Argument.joined list)
  take (mark ">")
  return list

/-- The arguments of a path. Tells whether there are none. -/
def arguments : Reader Bool := do
  return (← angleList (argument g)).isEmpty

/-- A segment of a path. In an expression its arguments need colons in front. Tells whether
it has arguments, and how long their list is if it is empty.
-/
def segment (inExpression : Bool) : Reader (Bool × Option Nat) := do
  if ← seesAny [word "super", word "self", word "crate", word "try"] then
    take anyIdent
    return (false, some 0)
  else
    if ← sees (word "Self") then take anyIdent else take ident
    let cs ← rest
    let opens := (mark "<").isAt cs && !(mark "<=").isAt cs && !(mark "<<=").isAt cs
    if !inExpression && opens then
      return (true, if ← arguments g then some 2 else none)
    else if (mark "::").isAt cs && (mark "<").isThird cs then
      take (mark "::")
      return (true, if ← arguments g then some 3 else none)
    else return (false, some 0)

/-- The segments of a path behind the first. A pair of colons in front of parentheses is
left.
-/
def moreSegments (inExpression : Bool) : Reader (List (Bool × Option Nat)) :=
  repeated do
    let cs ← rest
    if (mark "::").isAt cs && !(group .parenthesis).isThird cs then
      take (mark "::")
      return some (← segment g inExpression)
    else return none

/-- A path. -/
def path (inExpression : Bool) : Reader PathShape := do
  let leading ← takeIf (mark "::")
  let first ← segment g inExpression
  let others ← moreSegments g inExpression
  let last := others.getLastD first
  return {
    single := !leading && others.isEmpty
    plain := (first :: others).all (!·.1)
    spare := last.2 }

/-- A path that may start from a type in angle brackets; its shape if it does not. -/
def qualifiedPath (inExpression : Bool) : Reader (Option PathShape) := do
  if ← takeIf (mark "<") then
    let _ ← g.type true
    if ← takeIf (word "as") then
      let _ ← path g false
    take (mark ">")
    take (mark "::")
    let _ ← segment g inExpression
    let _ ← repeated do
      if ← takeIf (mark "::") then
        let _ ← segment g inExpression
        return some ()
      else return none
    return none
  else return some (← path g inExpression)

/-- Whether a path of this shape is followed by the call of a macro. -/
def seesCall (shape : Option PathShape) : Reader Bool := do
  let cs ← rest
  return (shape.map (·.plain)).getD false && (mark "!").isAt cs && !(mark "!=").isAt cs

end Reader

end DeclaredSettings.Derive
