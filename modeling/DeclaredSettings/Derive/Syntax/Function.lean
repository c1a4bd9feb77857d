import DeclaredSettings.Derive.Syntax.Expression
import DeclaredSettings.Derive.Syntax.Type

/-!
Functions: what stands in front of their bodies.
-/

namespace DeclaredSettings.Derive

/-- The tokens behind a keyword, if it is next. -/
def dropWord (text : String) (cs : List Tree) : List Tree :=
  if (Sign.word text).isAt cs then cs.tail else cs

/-- Whether a function starts here. `safe` says whether it may be called safe. -/
def startsFunction (safe : Bool) (cs : List Tree) : Bool :=
  let cs := dropWord "async" (dropWord "const" cs)
  let cs :=
    if safe && (Sign.word "safe").isAt cs then cs.tail else dropWord "unsafe" cs
  let cs :=
    match cs with
    | .ident ⟨false, "extern"⟩ _ :: rest =>
      if Sign.string.isAt rest then rest.tail else rest
    | cs => cs
  (Sign.word "fn").isAt cs

namespace Reader

open Sign

variable (g : Grammar)

/-- The object that a method is called on. -/
def receiver : Reader Unit := do
  let byReference ← takeIf (mark "&")
  if byReference then skipIf lifetime
  skipIf (word "mut")
  take (word "self")
  if !byReference && (← takeIf (mark ":")) then
    let _ ← g.type true

/-- Three dots in place of further arguments. -/
def remainder : Reader Unit := do
  take (mark "...")
  if !(← atEnd) then take (mark ",")

/-- An argument of a function other than its object. A type alone gets a name that is not
used. Tells whether it stands for all further ones.
-/
def functionArgument : Reader Bool := do
  let cs ← rest
  -- No pattern is a name with arguments, so this is a type.
  if ident.isAt cs && (mark "<").isSecond cs then
    write [.token "_", .token ":"]
    let _ ← g.type true
    return false
  else
    let _ ← g.pattern
    take (mark ":")
    if ← sees (mark "...") then
      remainder
      return true
    else
      let _ ← g.type true
      return false

/-- The place of an argument of a function. -/
inductive ArgumentPlace where
  | first
  | behindReceiver
  | later
  deriving DecidableEq, Repr

/-- The arguments of a function, at most `count` of them. Only the first can be the object
that it is called on.
-/
def functionArgumentsFrom : ArgumentPlace → Nat → Reader Unit
  | _, 0 => return
  | place, count + 1 => do
    if ← atEnd then return
    skipAttributes g
    if ← sees (mark "...") then return ← remainder
    let next ←
      match ← attempt (receiver g) with
      | some () => do
        if place ≠ .first then wrongBefore (.receiver (place = .behindReceiver))
        pure ArgumentPlace.behindReceiver
      | none => do
        if ← functionArgument g then return
        pure (if place = .behindReceiver then ArgumentPlace.behindReceiver else .later)
    if ← atEnd then return
    take (mark ",")
    functionArgumentsFrom next count

/-- What stands in front of the body of a function. Tells whether it is called safe, which
`safe` has to allow.
-/
def signature (safe : Bool) : Reader Bool := do
  skipIf (word "const")
  skipIf (word "async")
  let isSafe ← if safe then takeIf (word "safe") else pure false
  if !isSafe then skipIf (word "unsafe")
  callingConvention
  take (word "fn")
  take ident
  let _ ← parameters g
  inside .parenthesis do functionArgumentsFrom g .first ((← rest).length + 1)
  output g true
  let _ ← conditions g
  return isSafe

end Reader

end DeclaredSettings.Derive
