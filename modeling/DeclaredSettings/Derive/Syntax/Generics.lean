import DeclaredSettings.Derive.Syntax.Path

/-!
Generic parameters, and the conditions on them.
-/

namespace DeclaredSettings.Derive

/-- Whether angle brackets at this place hold generic parameters, and not a type. -/
def startsParameters (cs : List Tree) : Bool :=
  let open_ := Sign.mark "<"
  let named := Sign.lifetime.isSecond cs || Sign.ident.isSecond cs
  let ends := [Sign.mark ">", .mark ",", .mark "="].any (·.isThird cs)
  let bounded := (Sign.mark ":").isThird cs && !(Sign.mark "::").isThird cs
  open_.isAt cs
    && ((Sign.mark ">").isSecond cs || (Sign.mark "#").isSecond cs
      || named && (ends || bounded) || (Sign.word "const").isSecond cs)

namespace Reader

open Sign

variable (g : Grammar)

/-- The bounds of a parameter behind a colon, which is not written if there are none. -/
def boundsIfAny {α : Type} (stop : Reader Bool) (bound : Reader α) : Reader Unit := do
  let (found, code) ← captured do
    if ← takeIf (mark ":") then chained stop "+" bound else return []
  if !found.isEmpty then write code

/-- A lifetime among generic parameters. -/
def lifetimeParameter : Reader Unit := do
  take lifetime
  let stop := do return (← atEnd) || (← seesAny [mark ",", mark ">"])
  boundsIfAny stop (take lifetime)

/-- A type among generic parameters. -/
def typeParameter : Reader Unit := do
  take ident
  boundsIfAny (seesAny [mark ",", mark ">", mark "="]) (g.bound ⟨false, true⟩)
  if ← takeIf (mark "=") then
    let _ ← g.type true

/-- A constant among generic parameters. -/
def constantParameter : Reader Unit := do
  take (word "const")
  take ident
  take (mark ":")
  let _ ← g.type true
  if ← takeIf (mark "=") then constant g

/-- A parameter that is bound in front of a type. -/
def boundParameter : Reader Unit := do
  skipAttributes g
  let cs ← rest
  if ident.isAt cs then typeParameter g
  else if lifetime.isAt cs then lifetimeParameter
  else if (word "const").isAt cs then constantParameter g
  else missing [ident, lifetime, word "const"]

/-- A generic parameter. Tells whether it is a lifetime. -/
def parameter : Reader Bool := do
  skipAttributes g
  let cs ← rest
  if lifetime.isAt cs then
    lifetimeParameter
    return true
  else
    if ident.isAt cs then typeParameter g
    else if (word "const").isAt cs then constantParameter g
    else if (word "_").isAt cs then take (word "_")
    else missing [lifetime, ident, word "const"]
    return false

/-- The generic parameters, if there is a list of them: how many there are. An empty list is
not written.
-/
def parameters : Reader (Option Nat) := do
  if ← sees (mark "<") then
    let (list, code) ← captured (angleList (parameter g))
    if !list.isEmpty then write code
    return some list.length
  else return none

/-- What is bound in front of a type or a trait. -/
def binder : Reader Unit := do
  take (word "for")
  take (mark "<")
  let _ ← listed (sees (mark ">")) "," (boundParameter g)
  take (mark ">")

/-- What is bound in front of a type or a trait, if anything is. -/
def binderIfAny : Reader Bool := do
  if ← sees (word "for") then
    binder g
    return true
  else return false

/-- Whether conditions, or the bounds in one, end here. -/
def conditionsEnd : Reader Bool := do
  let cs ← rest
  return cs.isEmpty || [group .brace, mark ",", mark ";", mark "="].any (·.isAt cs)
    || (mark ":").isAt cs && !(mark "::").isAt cs

/-- A condition on a lifetime or on a type. -/
def condition : Reader Unit := do
  let cs ← rest
  if lifetime.isAt cs && (mark ":").isSecond cs then
    take lifetime
    take (mark ":")
    let stop := do
      return (← atEnd)
        || (← seesAny [group .brace, mark ",", mark ";", mark ":", mark "="])
    let _ ← chained stop "+" (take lifetime)
  else
    let _ ← binderIfAny g
    let _ ← g.type true
    take (mark ":")
    let _ ← chained conditionsEnd "+" (g.bound ⟨false, true⟩)

/-- The conditions on generic parameters, if there are any. An empty list of conditions is
not written.
-/
def conditions : Reader Bool := do
  if ← sees (word "where") then
    let (list, code) ← captured do
      take (word "where")
      if startsParameters (← rest) then wrong .genericWhere
      chained conditionsEnd "," (condition g)
    if !list.isEmpty then write code
    return true
  else return false

end Reader

end DeclaredSettings.Derive
