import DeclaredSettings.Derive.Syntax.Field
import DeclaredSettings.Derive.Syntax.Function

/-!
Items inside of blocks. The readers here start behind the attributes of an item and tell
whether the item is taken over as it stands.
-/

namespace DeclaredSettings.Derive.Reader

open Sign

variable (g : Grammar)

/-- Items or members up to the end of the tokens, each with its attributes. -/
def itemsOf (item : Reader Bool) : Reader Unit := do
  let _ ← repeated do
    if ← atEnd then return none
    let _ ← asItStandsWhen id do
      skipAttributes g
      item
    return some ()

/-- Items or members in braces, behind attributes of the whole. -/
def itemBlock (item : Reader Bool) : Reader Unit :=
  inside .brace do
    innerAttributes g
    itemsOf g item

/-! ### Parts -/

/-- The call of a macro as an item: it may declare a name, and ends with braces or a
semicolon.
-/
def callItem (named : Bool) : Reader Unit := do
  plainPath
  take (mark "!")
  if named then
    if ← sees (word "try") then take (word "try") else skipIf ident
  if !(← takeBrackets) then take (mark ";")

/-- What the call of a macro as an item starts with. -/
def callStarts : List Sign :=
  [ident, word "self", word "super", word "crate", mark "::"]

/-- Fails because no item or member starts here: with any of some keywords, or with the call
of a macro if that is allowed.
-/
def missingItem {α : Type} (call : Bool) (keywords : List String) : Reader α :=
  missing (keywords.map word ++ if call then callStarts else [])

/-- A name, or an underscore in place of one. In a trait a function could follow as well. -/
def nameOrNone (inTrait : Bool) : Reader Unit := do
  let names := [ident, word "_"]
  let others := if inTrait then ["async", "unsafe", "extern", "fn"] else []
  if ← seesAny names then take anyIdent else missing (names ++ others.map word)

/-- A constant behind its visibility. One that has parameters, conditions or no value is
taken over as it stands; a trait need not give a value.
-/
def constantItem (inTrait : Bool) : Reader Bool := do
  take (word "const")
  nameOrNone inTrait
  let generic := (← parameters g).isSome
  take (mark ":")
  let _ ← g.type true
  let valued ← takeIf (mark "=")
  if valued then
    let _ ← g.expression true
  let conditional ← conditions g
  take (mark ";")
  return generic || conditional || !(valued || inTrait)

/-- What is found of another name for a type. -/
structure AliasShape where
  bounded : Bool
  defined : Bool

/-- Another name for a type, behind its visibility; where its conditions may stand is told
by `early` and `late`.
-/
def aliasItem (early late : Bool) : Reader AliasShape := do
  take (word "type")
  take ident
  let _ ← parameters g
  let ((bounded, list), code) ← captured do
    if ← takeIf (mark ":") then
      let stop := seesAny [word "where", mark "=", mark ";"]
      return (true, ← listed stop "+" (g.bound ⟨false, true⟩))
    else return (false, [])
  if !list.isEmpty then write code
  let conditional ← if early then conditions g else pure false
  let defined ← takeIf (mark "=")
  if defined then
    let _ ← g.type true
  if late && !conditional then
    let _ ← conditions g
  take (mark ";")
  return ⟨bounded, defined⟩

/-! ### Members -/

/-- A member of a trait. -/
def traitMember : Reader Bool := do
  let visible ← visibility
  let isDefault ← takeIf (word "default")
  let cs ← rest
  let raw ←
    if startsFunction false cs then do
      let _ ← signature g false
      if ← sees (group .brace) then fullBlock g
      else if ← sees (mark ";") then take (mark ";")
      else missing [group .brace, mark ";"]
      pure false
    else if (word "const").isAt cs then constantItem g true
    else if (word "type").isAt cs then do
      let _ ← aliasItem g false true
      pure false
    else if !visible && !isDefault && callStarts.any (·.isAt cs) then do
      callItem false
      pure false
    else missingItem (!visible && !isDefault) ["fn", "const", "type"]
  return raw || visible || isDefault

/-- A member of an implementation. -/
def implementedMember : Reader Bool := do
  let visible ← visibility
  let cs ← rest
  let isDefault := (word "default").isAt cs && !(mark "!").isSecond cs
  if isDefault then take (word "default")
  let cs ← rest
  if startsFunction false cs then
    let _ ← signature g false
    if ← takeIf (mark ";") then return true
    fullBlock g
    return false
  else if (word "const").isAt cs then constantItem g false
  else if (word "type").isAt cs then
    let shape ← aliasItem g false true
    return shape.bounded || !shape.defined
  else if !visible && !isDefault && callStarts.any (·.isAt cs) then
    callItem false
    return false
  else
    let front := if isDefault then [] else ["default"]
    missingItem (!visible && !isDefault) (front ++ ["fn", "const", "type"])

/-- A member of a block of foreign items. -/
def foreignMember : Reader Bool := do
  let visible ← visibility
  let cs ← rest
  let marked := (word "unsafe").isAt cs || (word "safe").isAt cs
  if startsFunction true cs then
    let isSafe ← signature g true
    let hasBody ← sees (group .brace)
    if hasBody then fullBlock g else take (mark ";")
    return isSafe || hasBody
  else if (word "static").isAt cs || marked && (word "static").isSecond cs then
    if marked then take anyIdent
    take (word "static")
    skipIf (word "mut")
    take ident
    take (mark ":")
    let _ ← g.type true
    let valued ← takeIf (mark "=")
    if valued then
      let _ ← g.expression true
    take (mark ";")
    return marked || valued
  else if (word "type").isAt cs then
    let shape ← aliasItem g true true
    return shape.bounded || shape.defined
  else if !visible && callStarts.any (·.isAt cs) then
    callItem false
    return false
  else missingItem (!visible) ["fn", "static", "type"]

/-! ### Items -/

/-- A function, which without a body is taken over as it stands. -/
def functionItem : Reader Bool := do
  let _ ← signature g false
  if ← takeIf (mark ";") then return true
  fullBlock g
  return false

/-- A block of foreign items. -/
def foreignItem : Reader Unit := do
  let isUnsafe ← takeIf (word "unsafe")
  take (word "extern")
  let starts := [group .brace, string]
  if !isUnsafe && !(← seesAny starts) then missing (word "crate" :: starts)
  skipIf string
  itemBlock g (foreignMember g)

/-- Another library under its name. -/
def libraryItem : Reader Unit := do
  take (word "extern")
  take (word "crate")
  take (if ← sees (word "self") then word "self" else ident)
  if ← takeIf (word "as") then
    take (if ← sees (word "_") then word "_" else ident)
  take (mark ";")

/-- What is brought into use: a path, which may end with another name, with a star, or with
further paths in braces.
-/
def useTree (rooted : Bool) : Reader Bool := do
  let cs ← rest
  let names := [ident, word "self", word "super", word "crate", word "try"]
  if names.any (·.isAt cs) then
    take anyIdent
    if ← takeIf (mark "::") then return ← g.useTree false
    if ← takeIf (word "as") then
      if ← seesAny [ident, word "_"] then take anyIdent else wrong .noName
    return false
  else if (mark "*").isAt cs then
    take (mark "*")
    return false
  else if (group .brace).isAt cs then
    let branch : Reader Bool := do
      let isRoot ← if rooted then takeIf (mark "::") else pure false
      return (← g.useTree (rooted && !isRoot)) || isRoot
    return (← inside .brace (commaList branch)).any id
  else missing (names ++ [mark "*", group .brace])

/-- Names that are brought into use. -/
def useItem : Reader Bool := do
  take (word "use")
  let leading ← takeIf (mark "::")
  let isRaw ← g.useTree (!leading)
  take (mark ";")
  return isRaw

/-- A variable of the whole program. -/
def staticItem : Reader Bool := do
  take (word "static")
  skipIf (word "mut")
  take ident
  if ← takeIf (mark "=") then
    let _ ← g.expression true
    take (mark ";")
    return true
  take (mark ":")
  let _ ← g.type true
  if ← takeIf (mark ";") then return true
  take (mark "=")
  let _ ← g.expression true
  take (mark ";")
  return false

/-- A module. -/
def moduleItem : Reader Unit := do
  skipIf (word "unsafe")
  take (word "mod")
  take (if ← sees (word "try") then word "try" else ident)
  if ← sees (mark ";") then take (mark ";")
  else if ← sees (group .brace) then itemBlock g g.item
  else missing [mark ";", group .brace]

/-- The bounds behind a trait, and its members. -/
def traitBody : Reader Unit := do
  let (list, code) ← captured do
    if ← takeIf (mark ":") then
      listed (seesAny [word "where", group .brace]) "+" (g.bound ⟨false, true⟩)
    else return []
  if !list.isEmpty then write code
  let _ ← conditions g
  itemBlock g (traitMember g)

/-- A trait, or another name for a sum of bounds. -/
def traitItem : Reader Unit := do
  let isUnsafe ← takeIf (word "unsafe")
  let isAuto ← takeIf (word "auto")
  take (word "trait")
  take ident
  let _ ← parameters g
  let body := [group .brace, mark ":", word "where"]
  if isUnsafe || isAuto || (← seesAny body) then traitBody g
  else if ← takeIf (mark "=") then
    let stop := seesAny [word "where", mark ";"]
    let _ ← listed stop "+" (g.bound ⟨false, true⟩)
    let _ ← conditions g
    take (mark ";")
  else missing (body ++ [mark "="])

/-- An implementation. One that is asked for at compile time, or whose trait is no path, is
taken over as it stands.
-/
def implementation : Reader Bool := do
  skipIf (word "default")
  skipIf (word "unsafe")
  take (word "impl")
  if startsParameters (← rest) then
    let _ ← parameters g
  let cs ← rest
  let isConstant := (word "const").isAt cs || (mark "?").isAt cs && (word "const").isSecond cs
  if isConstant then
    skipIf (mark "?")
    take (word "const")
  let cs ← rest
  let isNegative := (mark "!").isAt cs && !(group .brace).isSecond cs
  if isNegative then take (mark "!")
  let shape ← g.type true
  let isOfTrait ← takeIf (word "for")
  if isOfTrait then
    let _ ← g.type true
  else if isNegative then wrongBefore .negative
  let _ ← conditions g
  itemBlock g (implementedMember g)
  return isConstant || isOfTrait && shape ≠ .name && shape ≠ .path

/-- The declaration of a macro with arguments. -/
def ruleItem : Reader Unit := do
  take (word "macro")
  take ident
  let hasArguments ← sees (group .parenthesis)
  if hasArguments then take (group .parenthesis)
  if ← sees (group .brace) then take (group .brace)
  else missing (if hasArguments then [group .brace] else [group .parenthesis, group .brace])

/-- A struct, an enum or a union, from its name on, with its body. -/
def dataItem (keyword : String) {α : Type} (body : Reader α) : Reader Unit := do
  take (word keyword)
  take ident
  let _ ← parameters g
  let _ ← body

/-- The keywords that an item can start with, in the order in which a report lists them. -/
def itemWords : List String :=
  ["fn", "extern", "use", "static", "const", "unsafe", "mod", "type", "struct", "enum",
    "union", "trait", "auto", "impl", "default", "macro"]

/-- An item behind its attributes. -/
def item : Reader Bool := do
  let visible ← visibility
  let cs ← rest
  let is (text : String) := (word text).isAt cs
  let second (text : String) := (word text).isSecond cs
  if startsFunction false cs then return ← functionItem g
  else if is "extern" && second "crate" then libraryItem
  else if is "extern" || is "unsafe" && second "extern" then
    if visible then missing [word "extern"]
    foreignItem g
  else if is "use" then return ← useItem g
  else if is "static" then return ← staticItem g
  else if is "const" then return ← constantItem g false
  else if is "trait" || is "auto" && second "trait"
      || is "unsafe" && (second "trait" || second "auto" && (word "trait").isThird cs) then
    traitItem g
  else if is "impl" || is "default" && !(mark "!").isSecond cs
      || is "unsafe" && second "impl" then
    return (← implementation g) || visible
  else if is "mod" || is "unsafe" && second "mod" then moduleItem g
  else if is "type" then
    let shape ← aliasItem g true false
    return shape.bounded || !shape.defined
  else if is "struct" then dataItem g "struct" (structBody g)
  else if is "enum" then dataItem g "enum" (enumBody g)
  else if is "union" && ident.isSecond cs then dataItem g "union" (unionBody g)
  else if is "macro" then
    ruleItem
    return true
  else if is "unsafe" then
    -- The keyword itself is right, so what is behind it is reported.
    goOn cs.tail
    missingItem false ["trait", "auto", "impl", "extern", "mod"]
  else if !visible && callStarts.any (·.isAt cs) then callItem true
  else missingItem (!visible) itemWords
  return false

end DeclaredSettings.Derive.Reader
