import DeclaredSettings.Derive.Syntax.Generics

/-!
What structs, enums and unions hold: fields and variants.
-/

namespace DeclaredSettings.Derive

/-- A named field. -/
structure Field where
  attributes : List Attribute
  name : Ident
  span : Span
  type : List Code
  deriving Repr

namespace Reader

open Sign

variable (g : Grammar)

/-- The visibility in front of something. Parentheses behind it that restrict nothing are
left for what follows. Tells whether there is one.
-/
def visibility : Reader Bool := do
  if !(← takeIf (word "pub")) then return false
  match ← rest with
  | .group .parenthesis content _ _ :: _ =>
    let near := [word "crate", word "self", word "super"].any (·.isAt content)
    if near && content.length = 1 then inside .parenthesis (take anyIdent)
    else if (word "in").isAt content then
      inside .parenthesis do
        take (word "in")
        plainPath
  | _ => pure ()
  return true

/-- The type of a field without a name, which may be a struct or a union on the spot. That
is taken over as it stands.
-/
def fieldType (isUnnamed : Bool) : Reader Unit := do
  let cs ← rest
  let isOnTheSpot := isUnnamed
    && ((word "struct").isAt cs || (word "union").isAt cs && (group .brace).isSecond cs)
  if isOnTheSpot then
    asItStands do
      take anyIdent
      g.fields
  else
    let _ ← g.type true

/-- A named field. -/
def namedField : Reader Field := do
  let attributes ← attributes g
  let _ ← visibility
  let cs ← rest
  let isUnnamed := (word "_").isAt cs
  take (if isUnnamed then word "_" else ident)
  take (mark ":")
  let ((), type) ← captured (fieldType g isUnnamed)
  write type
  match cs with
  | .ident name span :: _ => return ⟨attributes, name, span, type⟩
  | _ => missing [ident]

/-- Named fields in braces. -/
def namedFields : Reader (List Field) :=
  inside .brace (commaList (namedField g))

/-- Fields without names, in parentheses. -/
def unnamedFields : Reader Unit := do
  let field : Reader Unit := do
    skipAttributes g
    let _ ← visibility
    let _ ← g.type true
  let _ ← inside .parenthesis (commaList field)

/-- The fields of a struct, if they are named. -/
def structBody : Reader (Option (List Field)) := do
  let conditional ← conditions g
  let cs ← rest
  if !conditional && (group .parenthesis).isAt cs then
    unnamedFields g
    let _ ← conditions g
    if ← sees (mark ";") then take (mark ";") else missing [word "where", mark ";"]
    return none
  else if (group .brace).isAt cs then return some (← namedFields g)
  else if (mark ";").isAt cs then
    take (mark ";")
    return none
  else
    let front := if conditional then [] else [word "where", group .parenthesis]
    missing (front ++ [group .brace, mark ";"])

/-- A variant of an enum. Its visibility is not written. -/
def variant : Reader Unit := do
  skipAttributes g
  let _ ← captured visibility
  take ident
  if ← sees (group .brace) then
    let _ ← namedFields g
  else if ← sees (group .parenthesis) then unnamedFields g
  if ← takeIf (mark "=") then
    let _ ← g.expression true

/-- The variants of an enum. -/
def enumBody : Reader Unit := do
  let _ ← conditions g
  let _ ← inside .brace (commaList (variant g))

/-- The fields of a union. -/
def unionBody : Reader Unit := do
  let _ ← conditions g
  let _ ← namedFields g

end Reader

end DeclaredSettings.Derive
