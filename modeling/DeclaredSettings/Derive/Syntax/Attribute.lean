import DeclaredSettings.Derive.Syntax.Grammar

/-!
Attributes of items, fields and expressions.
-/

namespace DeclaredSettings.Derive

/-- What stands behind the path of an attribute. -/
inductive Attribute.Content where
  /-- Nothing. -/
  | none
  /-- Tokens in brackets of any kind, the closing one of which is at `closing`. -/
  | list (tokens : List Tree) (closing : Span)
  /-- A value behind an equals sign at `mark`. -/
  | value (mark : Span)
  deriving Repr

/-- An attribute of an item or a field. -/
structure Attribute where
  /-- The one identifier that its path is, if it is one. -/
  name : Option Ident
  span : Span
  content : Attribute.Content
  deriving Repr

/-- The stretch from the start of the first token to the end of the last. -/
def spanOf (tokens : List Tree) : Span :=
  match tokens.head?, tokens.getLast? with
  | some first, some last => first.span.upTo last.wholeSpan
  | _, _ => ⟨0, 0⟩

namespace Reader

open Sign

/-- The keywords that may stand in a path without arguments. -/
def pathWords : List Sign :=
  [word "super", word "self", word "Self", word "crate"]

/-- A path without arguments. -/
def plainPath : Reader Unit := do
  skipIf (mark "::")
  take (if ← seesAny pathWords then anyIdent else ident)
  let _ ← repeated do
    if ← takeIf (mark "::") then
      if ← seesAny (ident :: pathWords) then
        take anyIdent
        return some ()
      else wrong .noSegment
    else return none

variable (g : Grammar)

/-- The path of an attribute. -/
def attributePath : Reader Unit := do
  if ← sees (word "unsafe") then take (word "unsafe") else plainPath

/-- The value of an attribute: a literal alone, or an expression. -/
def attributeValue : Reader Unit := do
  let cs ← rest
  if (mark "#").isAt cs && (group .bracket).isSecond cs then wrong .attributeInAttribute
  let _ ← g.expression true

/-- An attribute from the tokens in its brackets. -/
def attributeBody : Reader Attribute := do
  let ((), path) ← withTokens attributePath
  let name :=
    match path with
    | [.ident found _] => some found
    | _ => none
  let content ←
    match ← rest with
    | .group _ tokens _ closing :: _ => do
      let _ ← takeBrackets
      pure (.list tokens closing)
    | tree :: _ => do
      if ← takeIf (mark "=") then
        attributeValue g
        pure (.value tree.span)
      else pure .none
    | [] => pure .none
  return ⟨name, spanOf path, content⟩

/-- The attributes in front of something. -/
def attributes : Reader (List Attribute) :=
  repeated do
    if ← takeIf (mark "#") then
      return some (← inside .bracket (attributeBody g))
    else return none

/-- The attributes in front of something, of which nothing is to be known. -/
def skipAttributes : Reader Unit := do
  let _ ← attributes g

/-- The attributes at the start of a block that belong to the block. -/
def innerAttributes : Reader Unit := do
  let _ ← repeated do
    let cs ← rest
    if (mark "#").isAt cs && (mark "!").isSecond cs then
      take (mark "#")
      take (mark "!")
      let _ ← inside .bracket (attributeBody g)
      return some ()
    else return none

end Reader

end DeclaredSettings.Derive
