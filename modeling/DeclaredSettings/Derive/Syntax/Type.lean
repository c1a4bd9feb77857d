import DeclaredSettings.Derive.Syntax.Bound

/-!
Types.
-/

namespace DeclaredSettings.Derive.Reader

open Sign

variable (g : Grammar)

/-- The keywords in front of the type of a function. -/
def functionWords : List Sign :=
  [word "fn", word "unsafe", word "extern"]

/-- The way in which a function is called, if it is said. -/
def callingConvention : Reader Unit := do
  if ← takeIf (word "extern") then skipIf string

/-- An argument of the type of a function, whose type or name may be left out. The first one
may be the object itself. Tells whether it is taken over as it stands.
-/
def functionTypeArgument (first : Bool) : Reader Bool := do
  let changed (cs : List Tree) := first && (word "mut").isAt cs && (word "self").isSecond cs
  let changes := changed (← rest)
  if changes then take (word "mut")
  let cs ← rest
  let isSelf := first && (word "self").isAt cs
  let named := (ident.isAt cs || (word "_").isAt cs || isSelf)
    && (mark ":").isSecond cs && !(mark "::").isSecond cs
  if named then
    take anyIdent
    take (mark ":")
  let cs ← rest
  if first && !(named && isSelf) && changed cs then
    take (word "mut")
    take (word "self")
    return true
  else if changes && !named then
    take (word "self")
    return true
  else
    let _ ← g.type true
    return changes

/-- Three dots in place of further arguments, perhaps behind a name. -/
def seesRemainder (cs : List Tree) : Bool :=
  (mark "...").isAt cs
    || (ident.isAt cs || (word "_").isAt cs) && (mark ":").isSecond cs
      && (mark "...").isThird cs

/-- The arguments of the type of a function, at most `count` of them. -/
def functionTypeArguments : Bool → Nat → Reader Unit
  | _, 0 => return
  | first, count + 1 => do
    if ← atEnd then return
    skipAttributes g
    let cs ← rest
    if seesRemainder cs then
      if !(mark "...").isAt cs then
        take anyIdent
        take (mark ":")
      take (mark "...")
      skipIf (mark ",")
    else
      let _ ← asItStandsWhen id (functionTypeArgument g first)
      if ← atEnd then return
      take (mark ",")
      functionTypeArguments false count

/-- The type of a function. -/
def functionType : Reader Unit := do
  skipIf (word "unsafe")
  callingConvention
  take (word "fn")
  inside .parenthesis do functionTypeArguments g true ((← rest).length + 1)
  output g false

/-- The bounds of an object, one of which has to be a trait. -/
def objectBounds (plus : Bool) : Reader (List BoundShape) := do
  let shapes ← bounds g plus ⟨false, false⟩
  if shapes.any (· ≠ .lifetime) then return shapes else wrongBefore .noTraitInObject

/-- What is found in the parentheses of a type. -/
inductive Parenthesized where
  /-- Nothing can be put to it. -/
  | closed
  /-- One bound that need not be met. -/
  | relaxed
  /-- One type. -/
  | one (shape : TypeShape)

/-- The inside of the parentheses of a type. -/
def parenthesized : Reader Parenthesized := do
  let cs ← rest
  if cs.isEmpty then return .closed
  else if lifetime.isAt cs then
    let _ ← objectBounds g true
    return .closed
  else if (mark "?").isAt cs then
    let _ ← traitBound g ⟨false, false⟩
    return .relaxed
  else
    let shape ← g.type true
    if ← takeIf (mark ",") then
      let _ ← commaList (g.type true)
      return .closed
    else return .one shape

/-- Parentheses in which there is one bound in parentheses become one pair. -/
def mergeParentheses : Reader Unit :=
  modify fun p =>
    match p.written with
    | .group .parenthesis [.group .parenthesis content] :: others =>
      { p with written := .group .parenthesis content :: others }
    | _ => p

/-- Bounds behind plus signs. Tells whether there are any. -/
def plusBounds : Reader Bool := do
  let step : Reader (Option Unit) := do
    if ← takeIf (mark "+") then
      let _ ← bound g ⟨false, false⟩
      return some ()
    else return none
  return !(← repeated step).isEmpty

/-- A type that starts with parentheses: a tuple, a type in parentheses, or a sum of bounds
of which the first is in parentheses.
-/
def parenthesisType (plus : Bool) : Reader TypeShape := do
  match ← inside .parenthesis (parenthesized g) with
  | .closed => return .other
  | .relaxed => return if ← plusBounds g then .other else .bound
  | .one shape =>
    if plus && shape ≠ .other && (← sees (mark "+")) then
      if shape = .bound then mergeParentheses
      let _ ← plusBounds g
    return .other

/-- A type that starts with a path. With something bound in front it is a bound. -/
def pathType (plus bound : Bool) : Reader TypeShape := do
  let shape ← qualifiedPath g false
  match shape with
  | none => return .other
  | some path =>
    if ← seesCall shape then
      take (mark "!")
      let _ ← takeBrackets
      return .other
    else if bound || plus && (← sees (mark "+")) then
      if plus then
        let (others, open_) ← moreBounds g ⟨false, false⟩ (← rest).length
        return if others.isEmpty && !open_ then .bound else .other
      else return .bound
    else return if path.single then .name else .path

/-- A type behind `dyn`. With a star in front of its bounds it is taken over as it
stands.
-/
def objectType (plus : Bool) : Reader Unit := do
  let _ ← asItStandsWhen id do
    take (word "dyn")
    let starred ← takeIf (mark "*")
    let _ ← objectBounds g plus
    return starred

/-- A type behind `impl`. -/
def opaqueType (plus : Bool) : Reader Unit := do
  take (word "impl")
  let shapes ← bounds g plus ⟨true, true⟩
  if !shapes.any (· = .trait) then wrongBefore .noTraitAtAll

/-- A slice, or an array with its length. -/
def sliceType : Reader Unit :=
  inside .bracket do
    let _ ← g.type true
    if ← takeIf (mark ";") then
      let _ ← g.expression true

/-- A pointer. -/
def pointerType : Reader Unit := do
  take (mark "*")
  if ← sees (word "const") then take (word "const")
  else if ← sees (word "mut") then take (word "mut")
  else missing [word "const", word "mut"]
  let _ ← g.type false

/-- A reference. -/
def referenceType : Reader Unit := do
  take (mark "&")
  skipIf lifetime
  skipIf (word "mut")
  let _ ← g.type false

/-- What a type can start with, in the order in which a report lists it. -/
def typeStarts : List Sign :=
  [word "for", group .parenthesis] ++ functionWords
    ++ [ident, mark "::", mark "<", word "dyn", group .bracket, mark "*", mark "&", mark "!",
      word "impl", word "_", lifetime]

/-- What can stand behind what is bound in front of a type. -/
def boundTypeStarts : List Sign :=
  ident :: functionWords
    ++ [word "super", word "self", word "Self", word "crate"]

/-- A type. -/
def type (plus : Bool) : Reader TypeShape := do
  let isBound ← binderIfAny g
  let cs ← rest
  -- Only a trait or a function can have something bound in front.
  if isBound && !boundTypeStarts.any (·.isAt cs) then missing boundTypeStarts
  if (group .parenthesis).isAt cs then return ← parenthesisType g plus
  if (ident :: mark "::" :: mark "<" :: pathWords).any (·.isAt cs) then
    return ← pathType g plus isBound
  if functionWords.any (·.isAt cs) then functionType g
  else if (word "dyn").isAt cs then objectType g plus
  else if (group .bracket).isAt cs then sliceType g
  else if (mark "*").isAt cs then pointerType g
  else if (mark "&").isAt cs then referenceType g
  else if (mark "!").isAt cs then take (mark "!")
  else if (word "impl").isAt cs then opaqueType g plus
  else if (word "_").isAt cs then take (word "_")
  else if lifetime.isAt cs then
    let _ ← objectBounds g true
  else missing typeStarts
  return .other

end DeclaredSettings.Derive.Reader
