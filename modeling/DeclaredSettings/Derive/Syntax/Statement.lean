import DeclaredSettings.Derive.Syntax.Expression

/-!
The statements of a block.
-/

namespace DeclaredSettings.Derive

/-- Whether an item starts here, behind its attributes. -/
def startsItem (cs : List Tree) : Bool :=
  let is (text : String) := (Sign.word text).isAt cs
  let second (texts : List String) := texts.any fun text => (Sign.word text).isSecond cs
  let third (texts : List String) := texts.any fun text => (Sign.word text).isThird cs
  let bar := Sign.mark "|"
  let block := Sign.group .brace
  ["pub", "extern", "use", "fn", "mod", "type", "struct", "enum", "trait", "impl",
      "macro"].any is
    || is "crate" && !(Sign.mark "::").isSecond cs
    || is "static"
      && (second ["mut"]
        || Sign.ident.isSecond cs
          && !(second ["async"] && (third ["move"] || bar.isThird cs)))
    || is "const"
      && !(block.isSecond cs || second ["static", "move"] || bar.isSecond cs
        || second ["async"] && !third ["unsafe", "extern", "fn"])
    || is "unsafe" && !block.isSecond cs
    || is "async" && second ["unsafe", "extern", "fn"]
    || is "union" && Sign.ident.isSecond cs
    || is "auto" && second ["trait"]
    || is "default" && second ["unsafe", "impl"]

/-- How the call of a macro starts a statement. -/
inductive CallStart where
  /-- It does not. -/
  | none
  /-- A macro that declares something by a name. -/
  | item
  /-- A macro with braces, behind which nothing is put. -/
  | statement
  deriving DecidableEq, Repr

namespace Reader

open Sign

variable (g : Grammar)

/-- How the call of a macro starts a statement here. -/
def callStart : Reader CallStart := do
  match ← lookAhead plainPath with
  | none => return .none
  | some (_, cs) =>
    let goesOn := (mark ".").isThird cs && !(mark "..").isThird cs || (mark "?").isThird cs
    if !(mark "!").isAt cs then return .none
    else if ident.isSecond cs || (word "try").isSecond cs then return .item
    else if (group .brace).isSecond cs && !goesOn then return .statement
    else return .none

/-- A declaration of variables. -/
def letStatement : Reader Unit := do
  take (word "let")
  let _ ← g.pattern
  if ← takeIf (mark ":") then
    let _ ← g.type true
  if ← takeIf (mark "=") then
    let _ ← g.expression true
    -- Behind braces another branch would belong to the value.
    let endsWithBrace :=
      match (← get).written with
      | .group .brace _ :: _ => true
      | _ => false
    if !endsWithBrace && (← takeIf (word "else")) then block g
  take (mark ";")

/-- What is found of a statement. -/
structure StatementShape where
  /-- Whether it is taken over as it stands. -/
  raw : Bool
  /-- Whether it has to be the last of its block. -/
  last : Bool

/-- A statement. -/
def statement : Reader StatementShape :=
  asItStandsWhen StatementShape.raw do
    keptAttributes g
    let start ← callStart
    let cs ← rest
    if start = .statement then
      plainPath
      take (mark "!")
      let _ ← takeBrackets
      skipIf (mark ";")
      return ⟨false, false⟩
    else if (word "let").isAt cs then
      letStatement g
      return ⟨false, false⟩
    else if startsItem cs || start = .item then return ⟨← g.item, false⟩
    else
      let shape ← g.early
      let closed ← takeIf (mark ";")
      return ⟨false, !closed && shape.needsSemicolon⟩

/-- The statements of a block, up to the end of the tokens. -/
def statements : Reader Unit := do
  let _ ← repeated do
    if ← takeIf (mark ";") then return some ()
    else if ← atEnd then return none
    else
      let shape ← statement g
      if shape.last && !(← atEnd) then wrong .noSemicolon
      return some ()

end Reader

end DeclaredSettings.Derive
