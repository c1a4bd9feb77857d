import DeclaredSettings.Derive.Syntax.Generics

/-!
Bounds: the lifetimes and traits that a type has to meet.
-/

namespace DeclaredSettings.Derive.Reader

open Sign

variable (g : Grammar)

/-- The result behind an arrow, if there is one. -/
def output (plus : Bool) : Reader Unit := do
  if ← takeIf (mark "->") then
    let _ ← g.type plus

/-- The arguments and the result of a trait that is written like a function. -/
def functionArguments : Reader Unit := do
  let _ ← inside .parenthesis (commaList (g.type true))
  output g false

/-- Whether a trait is asked for at compile time, which the rules have to allow. -/
def constantMark (rules : BoundRules) : Reader Bool := do
  if ← sees (group .bracket) then
    inside .bracket (take (word "const"))
    if !rules.constants then wrongBefore (.noConst "[const]")
    return true
  else if ← takeIf (word "const") then
    if !rules.constants then wrongBefore (.noConst "const")
    return true
  else return false

/-- A trait as a bound. An empty list of arguments gives way to those in parentheses. Tells
whether it is asked for at compile time.
-/
def traitBound (rules : BoundRules) : Reader Bool := do
  let early ← binderIfAny g
  let isConstant ← constantMark rules
  let relaxed ← takeIf (mark "?")
  let late ← if relaxed && !early then binderIfAny g else pure false
  let shape ← path g false
  let cs ← rest
  -- Only where there are no arguments yet can there be those in parentheses.
  if let some spare := shape.spare then
    if (group .parenthesis).isAt cs
        || (mark "::").isAt cs && (group .parenthesis).isThird cs then
      modify fun p => { p with written := p.written.drop spare }
      let _ ← captured (skipIf (mark "::"))
      functionArguments g
  if relaxed && (early || late) then wrongBefore .relaxedBinder
  return isConstant

/-- The names that an opaque type captures. -/
def capture : Reader Unit := do
  take (word "use")
  take (mark "<")
  let _ ← repeated do
    let cs ← rest
    if (mark ">").isAt cs then return none
    else if lifetime.isAt cs then take lifetime
    else if ident.isAt cs || (word "Self").isAt cs then take anyIdent
    else missing [lifetime, ident, mark ">"]
    if (← takeIf (mark ",")) || (← sees (mark ">")) then return some ()
    else missing [mark ",", mark ">"]
  take (mark ">")

/-- A bound. -/
def bound (rules : BoundRules) : Reader BoundShape := do
  let cs ← rest
  if lifetime.isAt cs then
    take lifetime
    return .lifetime
  else if (word "use").isAt cs then
    capture
    if !rules.captures then wrongBefore .noCapture
    return .capture
  else
    let trait :=
      if (group .parenthesis).isAt cs then inside .parenthesis (traitBound g rules)
      else traitBound g rules
    let _ ← asItStandsWhen id trait
    return .trait

/-- Whether another bound can stand behind a plus sign here. -/
def seesBound (rules : BoundRules) : Reader Bool := do
  let signs := [anyIdent, mark "::", mark "?", lifetime, group .parenthesis]
  return (← seesAny signs) || rules.constants && (← sees (group .bracket))

/-- Bounds behind plus signs, at most `count` of them. The last plus sign may have none
behind it. Gives their shapes, and whether a plus sign is last.
-/
def moreBounds (rules : BoundRules) : Nat → Reader (List BoundShape × Bool)
  | 0 => return ([], false)
  | count + 1 => do
    if ← takeIf (mark "+") then
      if ← seesBound rules then
        let first ← bound g rules
        let (others, open_) ← moreBounds rules count
        return (first :: others, open_)
      else return ([], true)
    else return ([], false)

/-- One bound, or a sum of them where `plus` allows it. -/
def bounds (plus : Bool) (rules : BoundRules) : Reader (List BoundShape) := do
  let first ← bound g rules
  if plus then
    let (others, _) ← moreBounds g rules (← rest).length
    return first :: others
  else return [first]

end DeclaredSettings.Derive.Reader
