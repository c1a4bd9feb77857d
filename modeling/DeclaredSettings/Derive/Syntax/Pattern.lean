import DeclaredSettings.Derive.Syntax.Index
import DeclaredSettings.Derive.Syntax.Path

/-!
Patterns.
-/

namespace DeclaredSettings.Derive.Reader

open Sign

variable (g : Grammar)

/-- Whether another alternative of a pattern follows. -/
def seesAlternative : Reader Bool := do
  let cs ← rest
  return (mark "|").isAt cs && !(mark "||").isAt cs && !(mark "|=").isAt cs

/-- A pattern with alternatives, and perhaps with a bar in front. -/
def alternatives : Reader PatternShape := do
  let leading ← takeIf (mark "|")
  let first ← g.pattern
  let others ← repeated do
    if ← seesAlternative then
      take (mark "|")
      let _ ← g.pattern
      return some ()
    else return none
  return if leading || !others.isEmpty then .other else first

/-- The dots of a range in a pattern: whether they leave the end out. Three dots stand for
two with an equals sign.
-/
def patternDots : Reader Bool := do
  let cs ← rest
  if (mark "..=").isAt cs then
    take (mark "..=")
    return false
  else if (mark "...").isAt cs then
    let _ ← captured (take (mark "..."))
    write [.token "..="]
    return false
  else
    take (mark "..")
    return true

/-- The end of a range in a pattern, if there is one. -/
def patternEnd : Reader Bool := do
  let cs ← rest
  let ends := [mark "|", mark "=", mark ",", mark ";", word "if"]
  if cs.isEmpty || ends.any (·.isAt cs) || (mark ":").isAt cs && !(mark "::").isAt cs then
    return false
  else if literal.isAt cs then
    take literal
    return true
  else if (ident :: mark "::" :: mark "<" :: pathWords).any (·.isAt cs) then
    let _ ← qualifiedPath g true
    return true
  else if (word "const").isAt cs then
    take (word "const")
    fullBlock g
    return true
  else missing ([literal, ident, mark "::", mark "<", word "self", word "Self",
    word "super", word "crate", word "const"])

/-- The dots and the end of a range in a pattern, behind its start. -/
def patternRange : Reader PatternShape := do
  let isHalfOpen ← patternDots
  if ← patternEnd g then return .other
  else if isHalfOpen then return .openRange
  else wrong .noRangeEnd

/-- The patterns between brackets. -/
def patternList : Reader (List PatternShape) :=
  commaList (alternatives g)

/-- A field in a pattern for a struct. With `box` in front it is taken over as it stands. -/
def fieldPattern : Reader Unit := do
  let _ ← asItStandsWhen id do
    let boxed ← takeIf (word "box")
    let byReference ← takeIf (word "ref")
    let mutable ← takeIf (word "mut")
    if boxed || byReference || mutable then
      take ident
      return boxed
    else
      let named ← member
      if !named || (← sees (mark ":")) then
        take (mark ":")
        let _ ← alternatives g
      return false

/-- The fields in a pattern for a struct, at most `count` of them. Two dots end them. -/
def fieldPatterns : Nat → Reader Unit
  | 0 => return
  | count + 1 => do
    if ← atEnd then return
    skipAttributes g
    if ← takeIf (mark "..") then return
    fieldPattern g
    if ← atEnd then return
    take (mark ",")
    fieldPatterns count

/-- A pattern that starts with a path. -/
def pathPattern : Reader PatternShape := do
  let shape ← qualifiedPath g true
  if ← seesCall shape then
    take (mark "!")
    let _ ← takeBrackets
    return .other
  let cs ← rest
  if (group .brace).isAt cs then
    inside .brace do fieldPatterns g ((← rest).length + 1)
    return .other
  else if (group .parenthesis).isAt cs then
    let _ ← inside .parenthesis (patternList g)
    return .other
  else if (mark "..").isAt cs then patternRange g
  else return .other

/-- A pattern that is a literal or a range between literals. -/
def literalPattern : Reader PatternShape := do
  if !(← patternEnd g) then return .other
  if ← sees (mark "..") then patternRange g else return .other

/-- A pattern that gives a name to what it matches. -/
def namePattern : Reader Unit := do
  skipIf (word "ref")
  skipIf (word "mut")
  if ← sees (word "self") then take (word "self") else take ident
  if ← takeIf (mark "@") then
    let _ ← g.pattern

/-- A pattern for a slice. -/
def slicePattern : Reader Unit :=
  inside .bracket do
    let part : Reader Unit := do
      if (← alternatives g) = .openRange then wrongBefore .openRangeInSlice
    let _ ← commaList part

/-- A pattern that starts with dots. -/
def dotsPattern : Reader PatternShape := do
  let isHalfOpen := !(← sees (mark "..="))
  let _ ← patternDots
  if ← patternEnd g then return .openRange
  else if isHalfOpen then return .rest
  else wrong .noRangeEnd

/-- Whether a pattern starts with a path of more than a name. -/
def startsPathPattern (cs : List Tree) : Bool :=
  let behindName := [mark "::", mark "!", group .brace, group .parenthesis, mark ".."]
  ident.isAt cs && behindName.any (·.isSecond cs)
    || (word "self").isAt cs && (mark "::").isSecond cs
    || [mark "::", mark "<", word "Self", word "super", word "crate"].any (·.isAt cs)

/-- What a pattern can start with, in the order in which a report lists it. Two dots are
left out where there are three.
-/
def patternStarts (cs : List Tree) : List Sign :=
  [ident, mark "::", mark "<", word "_", literal, word "const", word "ref", word "mut",
    mark "&", group .parenthesis, group .bracket]
    ++ if (mark "...").isAt cs then [] else [mark ".."]

/-- A pattern without alternatives. -/
def pattern : Reader PatternShape := do
  let cs ← rest
  if startsPathPattern cs then return ← pathPattern g
  if (word "_").isAt cs then take (word "_")
  else if (word "box").isAt cs then
    let _ ← asItStands do
      take (word "box")
      g.pattern
  else if [mark "-", literal, word "const"].any (·.isAt cs) then
    return ← literalPattern g
  else if [word "ref", word "mut", word "self", ident].any (·.isAt cs) then
    namePattern g
  else if (mark "&").isAt cs then
    take (mark "&")
    skipIf (word "mut")
    let _ ← g.pattern
  else if (group .parenthesis).isAt cs then
    let _ ← inside .parenthesis (patternList g)
  else if (group .bracket).isAt cs then slicePattern g
  else if (mark "..").isAt cs && !(mark "...").isAt cs then return ← dotsPattern g
  else missing (patternStarts cs)
  return .other

end DeclaredSettings.Derive.Reader
