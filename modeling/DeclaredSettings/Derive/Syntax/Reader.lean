import DeclaredSettings.Derive.Code
import DeclaredSettings.Derive.Syntax.Fault

/-!
Readers of Rust source text. A reader takes tokens from the front and writes the code for
them, in which the marks of one token are joined and all else stands apart. Most code is
written in the order in which it is read; what a reader gives back is the little that others
have to know of it.
-/

namespace DeclaredSettings.Derive

/-- The tokens that are still to be read, the code that is written so far, backwards, and
the first brackets in which something was left over.
-/
structure Passage where
  rest : List Tree
  written : List Code
  leftover : Option Delimiter

/-- A reader of some tokens. -/
abbrev Reader (α : Type) := StateT Passage (Except SyntaxFault) α

namespace Reader

variable {α : Type}

/-- Reads a list of tokens: what is found, the passage behind it. -/
def start (reader : Reader α) (cs : List Tree) : Except SyntaxFault (α × Passage) :=
  reader.run ⟨cs, [], none⟩

/-- Reads all of some tokens: what is found, and the code for it. -/
def readAll (reader : Reader α) (cs : List Tree) : Except SyntaxFault (α × List Code) := do
  let (found, passage) ← reader.start cs
  match passage.leftover, passage.rest with
  | some delimiter, _ => .error (.left delimiter)
  | none, _ :: _ => .error (.left none)
  | none, [] => .ok (found, passage.written.reverse)

/-- The tokens that are still to be read. -/
def rest : Reader (List Tree) :=
  return (← get).rest

/-- Whether all tokens are read. -/
def atEnd : Reader Bool :=
  return (← get).rest.isEmpty

/-- Whether a sign is next. -/
def sees (sign : Sign) : Reader Bool :=
  return sign.isAt (← rest)

/-- Whether one of some signs is next. -/
def seesAny (signs : List Sign) : Reader Bool := do
  let cs ← rest
  return signs.any (·.isAt cs)

/-- Fails because none of some signs is next. -/
def missing (choices : List Sign) : Reader α := do
  throw (.missing (← atEnd) choices)

/-- Fails at the next token. -/
def wrong (what : Objection) : Reader α := do
  throw (.wrong (← atEnd) what)

/-- Fails because of tokens that are already read. -/
def wrongBefore (what : Objection) : Reader α :=
  throw (.wrong false what)

/-- Writes code. -/
def write (code : List Code) : Reader Unit :=
  modify fun p => { p with written := code.reverse ++ p.written }

/-- Goes on with these tokens. -/
def goOn (cs : List Tree) : Reader Unit :=
  modify fun p => { p with rest := cs }

/-- Reads what a sign stands for and writes it. Brackets are taken over as they are. -/
def take (sign : Sign) : Reader Unit := do
  let cs ← rest
  if sign.isAt cs then
    match sign, cs with
    | .mark text, cs =>
      write [.token text]
      goOn (cs.drop text.length)
    | .lifetime, _ :: .ident ident _ :: cs =>
      write [.token ("'" ++ ident.text)]
      goOn cs
    | .literal, .mark _ _ _ :: .literal text _ :: cs =>
      write [.token "-", .token (String.ofList text)]
      goOn cs
    | _, cs =>
      write (Code.ofTrees (cs.take 1))
      goOn cs.tail
  else
    match sign, cs with
    | .mark text, _ => throw (.noMark text)
    | .ident, .ident found _ :: _ => throw (.keyword found.name)
    | _, _ => missing [sign]

/-- Reads a sign if it is next, and says whether it was. -/
def takeIf (sign : Sign) : Reader Bool := do
  if ← sees sign then
    take sign
    return true
  else return false

/-- Reads a sign if it is next. -/
def skipIf (sign : Sign) : Reader Unit := do
  if ← sees sign then take sign

/-- Reads what stands in brackets of a kind. What is left over there is noted, and reported
only when all else is well.
-/
def inside (delimiter : Delimiter) (reader : Reader α) : Reader α := do
  let before ← get
  match before.rest with
  | .group found content _ _ :: cs =>
    if found = delimiter then
      let (a, inner) ← reader.run ⟨content, [], before.leftover⟩
      let left := if inner.rest.isEmpty then none else some delimiter
      set {
        rest := cs
        written := .group delimiter inner.written.reverse :: before.written
        leftover := inner.leftover <|> left : Passage }
      return a
    else missing [.group delimiter]
  | _ => missing [.group delimiter]

/-- Reads brackets of any kind and takes them over as they stand. Tells whether they are
braces.
-/
def takeBrackets : Reader Bool := do
  match ← rest with
  | .group delimiter content opening closing :: cs => do
    write [.ofTree (.group delimiter content opening closing)]
    goOn cs
    return delimiter = .brace
  | _ => wrong .noDelimiter

/-- Reads on if that goes well, and stays where it is if not. -/
def attempt (reader : Reader α) : Reader (Option α) := do
  let passage ← get
  match reader.run passage with
  | .ok (a, behind) =>
    set behind
    return some a
  | .error _ => return none

/-- What a reader would find, and the tokens behind it, without reading. -/
def lookAhead (reader : Reader α) : Reader (Option (α × List Tree)) := do
  match reader.run (← get) with
  | .ok (a, behind) => return some (a, behind.rest)
  | .error _ => return none

/-- Reads without writing, and gives the code instead. -/
def captured (reader : Reader α) : Reader (α × List Code) := do
  let before ← get
  let (a, after) ← reader.run { before with written := [] }
  set { after with written := before.written }
  return (a, after.written.reverse)

/-- Reads and gives the tokens that were read besides. -/
def withTokens (reader : Reader α) : Reader (α × List Tree) := do
  let before ← rest
  let a ← reader
  let behind ← rest
  return (a, before.take (before.length - behind.length))

/-- Reads, and takes the tokens over as they stand in the source if what is found says so. -/
def asItStandsWhen (condition : α → Bool) (reader : Reader α) : Reader α := do
  let ((a, tokens), code) ← captured (withTokens reader)
  write (if condition a then Code.ofTrees tokens else code)
  return a

/-- Reads, and takes the tokens over as they stand in the source. -/
def asItStands (reader : Reader α) : Reader α :=
  asItStandsWhen (fun _ => true) reader

/-- Repeats a reader as long as it finds something, at most `count` times. -/
def repeatedUpTo (reader : Reader (Option α)) : Nat → Reader (List α)
  | 0 => return []
  | count + 1 => do
    match ← reader with
    | none => return []
    | some a => return a :: (← repeatedUpTo reader count)

/-- Repeats a reader as long as it finds something, which takes at least one token. -/
def repeated (reader : Reader (Option α)) : Reader (List α) := do
  repeatedUpTo reader ((← rest).length + 1)

/-- Repeats a reader until a condition holds, between which marks stand, at most `count`
times.
-/
def listedUpTo (stop : Reader Bool) (between : String) (reader : Reader α)
    : Nat → Reader (List α)
  | 0 => return []
  | count + 1 => do
    if ← stop then return []
    let first ← reader
    if ← stop then return [first]
    take (.mark between)
    return first :: (← listedUpTo stop between reader count)

/-- Repeats a reader until a condition holds, between which marks stand. -/
def listed (stop : Reader Bool) (between : String) (reader : Reader α)
    : Reader (List α) := do
  listedUpTo stop between reader ((← rest).length + 1)

/-- Repeats a reader up to the end, with commas between and perhaps behind. -/
def commaList (reader : Reader α) : Reader (List α) :=
  listed atEnd "," reader

/-- Repeats a reader until a condition holds or no marks follow that stand between, at most
`count` times.
-/
def chainedUpTo (stop : Reader Bool) (between : String) (reader : Reader α)
    : Nat → Reader (List α)
  | 0 => return []
  | count + 1 => do
    if ← stop then return []
    let first ← reader
    if ← takeIf (.mark between) then
      return first :: (← chainedUpTo stop between reader count)
    else return [first]

/-- Repeats a reader until a condition holds or no marks follow that stand between. -/
def chained (stop : Reader Bool) (between : String) (reader : Reader α)
    : Reader (List α) := do
  chainedUpTo stop between reader ((← rest).length + 1)

end Reader

end DeclaredSettings.Derive
