import DeclaredSettings.Toml.DateTime
import DeclaredSettings.Toml.Number
import DeclaredSettings.Toml.Table
import DeclaredSettings.Toml.Text

/-!
TOML documents, version 1.1: keys, values, headings, and the lines on which they stand.
-/

namespace DeclaredSettings.Toml

/-- How deep arrays and inline tables may be nested, and how many parts a key may have. -/
def greatestDepth : Nat := 80

/-- The characters of keys without quotes. -/
def isBare (c : Char) : Bool :=
  c.isAlphanum || c == '_' || c == '-'

/-- The characters of values without quotes. -/
def isAtom (c : Char) : Bool :=
  isBare c || c == '+' || c == '.' || c == ':'

/-- What stands behind a comment, if one is here: at best the end of its line. -/
def skipComment : List Char → List Char
  | '#' :: rest => rest.dropWhile fun c => !isControl c
  | cs => cs

/-- What stands behind blanks, comments and ends of lines, at most `count` of the latter. -/
def skipLines : Nat → List Char → List Char
  | 0, cs => cs
  | count + 1, cs =>
    let behind := skipComment (cs.dropWhile isBlank)
    match lineEnd? behind with
    | some rest => skipLines count rest
    | none => behind

/-- What stands behind blanks, comments and ends of lines. -/
def skipSpace (cs : List Char) : List Char :=
  skipLines (cs.length + 1) cs

/-- One part of a key, and what stands behind it. -/
def keyPart? (cs : List Char) : Option (String × List Char) :=
  match lineString? cs with
  | some found => some found
  | none =>
    let (bare, rest) := cs.span isBare
    if bare = [] then none else some (String.ofList bare, rest)

/-- The parts of a key, at most `count` of them, and what stands behind it. -/
def key? : Nat → List Char → Option (List String × List Char)
  | 0, _ => none
  | count + 1, cs => do
    let (part, rest) ← keyPart? (cs.dropWhile isBlank)
    match rest.dropWhile isBlank with
    | '.' :: rest => do
      let (parts, rest) ← key? count rest
      return (part :: parts, rest)
    | rest => return ([part], rest)

/-- The last part of a key and the way to it. -/
def split? (parts : List String) : Option (List String × String) :=
  parts.getLast?.map fun last => (parts.dropLast, last)

/-- A value without quotes: a word, a number, or a date or time. -/
def atom? (cs : List Char) : Option Value :=
  if cs = "true".toList then some (.bool true)
  else if cs = "false".toList then some (.bool false)
  else
    match whole? cs <|> float? cs with
    | some v => some v
    | none =>
      (dateTime? cs).map fun text =>
        .obj [("$__toml_private_datetime", .str (String.ofList text))]

/-- A value without quotes, and what stands behind it. A date and a time may stand apart. -/
def spacedAtom? (cs : List Char) : Option (Value × List Char) := do
  let (atom, rest) := cs.span isAtom
  let apart :=
    match date? atom, rest with
    | some (_, []), ' ' :: c :: _ => c.isDigit
    | _, _ => false
  let (atom, rest) :=
    if apart then
      let (time, rest) := (rest.drop 1).span isAtom
      (atom ++ ' ' :: time, rest)
    else (atom, rest)
  return (← atom? atom, rest)

/-- The items of an array, at most `count` of them, and what stands behind it. -/
def items? (item? : List Char → Option (Value × List Char))
    : Nat → List Char → Option (List Value × List Char)
  | 0, _ => none
  | count + 1, cs => do
    match skipSpace cs with
    | ']' :: rest => return ([], rest)
    | cs => do
      let (first, rest) ← item? cs
      match skipSpace rest with
      | ']' :: rest => return ([first], rest)
      | ',' :: rest => do
        let (others, rest) ← items? item? count rest
        return (first :: others, rest)
      | _ => none

/-- A key, the mark behind it, and its value. What may stand around the mark is passed over
by `skip`.
-/
def pair? (skip : List Char → List Char) (item? : List Char → Option (Value × List Char))
    (cs : List Char) : Option (List String × String × Value × List Char) := do
  let (parts, rest) ← key? greatestDepth cs
  let (way, last) ← split? parts
  match skip rest with
  | '=' :: rest => do
    let (v, rest) ← item? (skip rest)
    return (way, last, v, rest)
  | _ => none

/-- The entries of an inline table, at most `count` of them, added to those in front. -/
def inlineEntries? (item? : List Char → Option (Value × List Char))
    : Nat → Branch → List Char → Option (Branch × List Char)
  | 0, _, _ => none
  | count + 1, branch, cs => do
    match skipSpace cs with
    | '\x7d' :: rest => return (branch, rest)
    | cs => do
      let (way, last, v, rest) ← pair? skipSpace item? cs
      let branch ← assignDotted? way last v .headed branch
      match skipSpace rest with
      | '\x7d' :: rest => return (branch, rest)
      | ',' :: rest => inlineEntries? item? count branch rest
      | _ => none

/-- A value in which at most `room` arrays and inline tables are open at a time, and what
stands behind it.
-/
def value? (room : Nat) (cs : List Char) : Option (Value × List Char) :=
  match cs with
  | '"' :: _ | '\'' :: _ => (string? cs).map fun (s, rest) => (.str s, rest)
  | '[' :: rest =>
    match room with
    | 0 => none
    | room + 1 => do
      let (list, rest) ← items? (value? room) (rest.length + 1) rest
      return (.arr list, rest)
  | '\x7b' :: rest =>
    match room with
    | 0 => none
    | room + 1 => do
      let (branch, rest) ← inlineEntries? (value? room) (rest.length + 1) [] rest
      return (.ofEntries (entryValues branch), rest)
  | cs => spacedAtom? cs

/-- The state between two lines: the document so far, and the way to the table that the last
heading opened.
-/
structure State where
  document : Branch
  heading : List String

/-- A line with a heading. -/
def heading? (isArray : Bool) (parts : List String) (state : State) : Option State := do
  let (way, last) ← split? parts
  let open? := if isArray then push? last else head? last
  let document ← along? .passed (fun _ branch => open? branch) way .headed state.document
  return ⟨document, parts⟩

/-- A line with a key and a value, which belongs to the last heading. -/
def assignment? (way : List String) (last : String) (v : Value) (state : State)
    : Option State := do
  let document ←
    along? .passed (fun _ branch => assignDotted? way last v .headed branch)
      state.heading .headed state.document
  return { state with document }

/-- What a line says, and what stands behind that. -/
def expression? (state : State) (cs : List Char) : Option (State × List Char) :=
  match cs with
  | '[' :: '[' :: rest => do
    let (parts, rest) ← key? greatestDepth rest
    match rest with
    | ']' :: ']' :: rest => return (← heading? true parts state, rest)
    | _ => none
  | '[' :: rest => do
    let (parts, rest) ← key? greatestDepth rest
    match rest with
    | ']' :: rest => return (← heading? false parts state, rest)
    | _ => none
  | cs => do
    let (way, last, v, rest) ← pair? (·.dropWhile isBlank) (value? greatestDepth) cs
    return (← assignment? way last v state, rest)

/-- The lines of a document, at most `count` of them. -/
def lines? : Nat → State → List Char → Option State
  | 0, state, _ => some state
  | count + 1, state, cs => do
    match skipSpace cs with
    | [] => return state
    | cs => do
      let (state, rest) ← expression? state cs
      let behind := skipComment (rest.dropWhile isBlank)
      match lineEnd? behind with
      | some rest => lines? count state rest
      | none => if behind = [] then return state else none

/-- The entries of a document. A byte-order mark in front of it is passed over. -/
def document (text : String) : Option (List (String × Value)) := do
  let cs :=
    match text.toList with
    | '\uFEFF' :: rest => rest
    | cs => cs
  let state ← lines? (cs.length + 1) ⟨[], []⟩ cs
  return entryValues state.document

end DeclaredSettings.Toml
