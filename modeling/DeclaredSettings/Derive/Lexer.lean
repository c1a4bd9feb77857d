import DeclaredSettings.Derive.Code
import DeclaredSettings.Json.String
import DeclaredSettings.Text.Identifier
import DeclaredSettings.Text.WhiteSpace

/-!
The lexer of Rust source text. White space and plain comments separate tokens; a
documentation comment stands for an attribute.
-/

namespace DeclaredSettings.Derive

open Text
open Json (hexValue?)

/-- Whether a text starts with another, and what stands behind that. -/
def after? : List Char → List Char → Option (List Char)
  | [], cs => some cs
  | _ :: _, [] => none
  | p :: ps, c :: cs => if p = c then after? ps cs else none

/-- Whether a text starts with another. -/
def starts (front cs : List Char) : Bool :=
  (after? front cs).isSome

/-! ### Blanks and comments -/

/-- The white space of source text, which has the two marks of writing direction too. -/
def isSourceBlank (c : Char) : Bool :=
  isWhiteSpace c || c == '\u200E' || c == '\u200F'

/-- The rest of a line and what stands behind it. A line ends at a line feed, with the
carriage return in front of it.
-/
def lineRest : List Char → List Char × List Char
  | [] => ([], [])
  | '\n' :: rest => ([], '\n' :: rest)
  | '\r' :: '\n' :: rest => ([], '\n' :: rest)
  | c :: rest =>
    let (line, behind) := lineRest rest
    (c :: line, behind)

/-- The rest of a block comment in which `depth` others are open, and what stands behind it.
Block comments nest.
-/
def blockRest? : Nat → List Char → Option (List Char × List Char)
  | _, [] => none
  | depth, '/' :: '*' :: rest =>
    (blockRest? (depth + 1) rest).map fun (s, behind) => ('/' :: '*' :: s, behind)
  | 0, '*' :: '/' :: rest => some ([], rest)
  | depth + 1, '*' :: '/' :: rest =>
    (blockRest? depth rest).map fun (s, behind) => ('*' :: '/' :: s, behind)
  | depth, c :: rest => (blockRest? depth rest).map fun (s, behind) => (c :: s, behind)

/-- What stands behind a plain comment, if one is here. -/
def plainComment? : List Char → Option (List Char)
  | '/' :: '/' :: rest =>
    let isDocumentation :=
      match rest with
      | '/' :: '/' :: _ => false
      | '/' :: _ | '!' :: _ => true
      | _ => false
    if isDocumentation then none else some (lineRest rest).2
  | '/' :: '*' :: rest =>
    let isDocumentation :=
      match rest with
      | '*' :: '/' :: _ | '*' :: '*' :: _ => false
      | '*' :: _ | '!' :: _ => true
      | _ => false
    if isDocumentation then none else (blockRest? 0 rest).map (·.2)
  | _ => none

/-- The text of a documentation comment, if one is here, whether it documents what it stands
in, and what stands behind it.
-/
def documentation? : List Char → Option (List Char × Bool × List Char)
  | '/' :: '/' :: '!' :: rest =>
    let (s, behind) := lineRest rest
    some (s, true, behind)
  | '/' :: '/' :: '/' :: rest =>
    let (s, behind) := lineRest rest
    if rest.head? = some '/' then none else some (s, false, behind)
  | '/' :: '*' :: '!' :: rest =>
    (blockRest? 0 rest).map fun (s, behind) => (s, true, behind)
  | '/' :: '*' :: '*' :: rest =>
    if rest.head? = some '*' then none
    else (blockRest? 0 rest).map fun (s, behind) => (s, false, behind)
  | _ => none

/-- What stands behind white space and plain comments, at most `count` of them. -/
def skipBlanks : Nat → List Char → List Char
  | 0, cs => cs
  | count + 1, cs =>
    let cs := cs.dropWhile isSourceBlank
    match plainComment? cs with
    | some behind => skipBlanks count behind
    | none => cs

/-! ### Identifiers -/

/-- An identifier without `r#`, and what stands behind it. -/
def plainIdent? (cs : List Char) : Option (String × List Char) :=
  match cs with
  | [] => none
  | c :: rest =>
    if isIdentifierStart c then
      some (String.ofList (c :: rest.takeWhile isIdentifierContinue),
        rest.dropWhile isIdentifierContinue)
    else none

/-- The names that cannot be written with `r#`. -/
def neverRaw : List String :=
  ["_", "super", "self", "Self", "crate"]

/-- An identifier, and what stands behind it. -/
def ident? (cs : List Char) : Option (Ident × List Char) :=
  match cs with
  | 'r' :: '#' :: rest =>
    match plainIdent? rest with
    | some (name, behind) => if name ∈ neverRaw then none else some (⟨true, name⟩, behind)
    | none => none
  | cs => (plainIdent? cs).map fun (name, behind) => (.plain name, behind)

/-- The starts of literals, which no identifier has. -/
def literalStarts : List (List Char) :=
  ["r\"", "r#\"", "r##", "b\"", "b'", "br\"", "br#", "c\"", "cr\"", "cr#"].map String.toList

/-! ### Literals -/

/-- What the strings of a kind may hold. -/
structure Alphabet where
  /-- The greatest first digit of a hexadecimal escape. -/
  greatestDigit : Nat
  /-- Whether characters beyond ASCII may be in it, and be written by their numbers. -/
  wide : Bool
  /-- Whether the character zero may be in it. -/
  zero : Bool

namespace Alphabet

/-- Strings and characters. -/
def text : Alphabet := ⟨7, true, true⟩

/-- Strings of bytes, and bytes. -/
def bytes : Alphabet := ⟨15, false, true⟩

/-- Strings that end at a zero. -/
def terminated : Alphabet := ⟨15, true, false⟩

/-- Whether the character of this number may be in a string. -/
def holds (alphabet : Alphabet) (n : Nat) : Bool :=
  (alphabet.zero || n != 0) && (alphabet.wide || n < 0x80)

end Alphabet

/-- What stands behind a hexadecimal escape of two digits. -/
def behindHex? (alphabet : Alphabet) : List Char → Option (List Char)
  | a :: b :: rest => do
    let first ← hexValue? a
    let second ← hexValue? b
    if first ≤ alphabet.greatestDigit && (alphabet.zero || first + second != 0) then some rest
    else none
  | _ => none

/-- The number of a character in braces, and what stands behind it. It has at most six
digits, between which underscores may stand.
-/
def braced? (cs : List Char) : Option (Nat × List Char) := do
  let (run, behind) := (← after? ['\x7b'] cs).span fun c => (hexValue? c).isSome || c == '_'
  let digits := run.filterMap hexValue?
  let n := digits.foldl (fun n d => n * 16 + d) 0
  if run.head? != some '_' && digits != [] && digits.length ≤ 6 && n.isValidChar then
    return (n, ← after? ['\x7d'] behind)
  else none

/-- What stands behind an escape, from behind its backslash. -/
def behindEscape? (alphabet : Alphabet) : List Char → Option (List Char)
  | 'x' :: rest => behindHex? alphabet rest
  | 'u' :: rest => do
    let (n, behind) ← braced? rest
    if alphabet.wide && alphabet.holds n then some behind else none
  | '0' :: rest => if alphabet.zero then some rest else none
  | c :: rest => if c ∈ ['n', 'r', 't', '\\', '\'', '"'] then some rest else none
  | [] => none

/-- What stands behind a string with escapes, from behind its opening quote; `count` bounds
its length.
-/
def behindString? (alphabet : Alphabet) : Nat → List Char → Option (List Char)
  | 0, _ => none
  | _, [] => none
  | _ + 1, '"' :: rest => some rest
  | count + 1, '\\' :: '\n' :: rest => behindString? alphabet count rest
  | count + 1, '\\' :: '\r' :: '\n' :: rest => behindString? alphabet count rest
  | count + 1, '\\' :: rest => do
    behindString? alphabet count (← behindEscape? alphabet rest)
  | count + 1, '\r' :: '\n' :: rest => behindString? alphabet count rest
  | _ + 1, '\r' :: _ => none
  | count + 1, c :: rest =>
    if alphabet.holds c.toNat then behindString? alphabet count rest else none

/-- What stands behind a raw string, from behind its opening quote. -/
def behindRaw? (alphabet : Alphabet) (hashes : List Char) : List Char → Option (List Char)
  | [] => none
  | '"' :: rest =>
    match after? hashes rest with
    | some behind => some behind
    | none => behindRaw? alphabet hashes rest
  | '\r' :: '\n' :: rest => behindRaw? alphabet hashes rest
  | '\r' :: _ => none
  | c :: rest =>
    if alphabet.holds c.toNat then behindRaw? alphabet hashes rest else none

/-- The greatest number of hashes around a raw string. -/
def mostHashes : Nat := 255

/-- What stands behind a raw string, from behind its `r`. -/
def rawString? (alphabet : Alphabet) (cs : List Char) : Option (List Char) := do
  let (hashes, behind) := cs.span (· == '#')
  if hashes.length ≤ mostHashes then
    behindRaw? alphabet hashes (← after? ['"'] behind)
  else none

/-- What stands behind a character or byte in single quotes, from behind the first. -/
def behindQuoted? (alphabet : Alphabet) : List Char → Option (List Char)
  | '\\' :: rest => do after? ['\''] (← behindEscape? alphabet rest)
  | c :: rest => if alphabet.holds c.toNat then after? ['\''] rest else none
  | [] => none

/-- What stands behind an identifier that is put to a literal as its suffix, if there is
one.
-/
def behindSuffix (cs : List Char) : List Char :=
  match plainIdent? cs with
  | some (_, behind) => behind
  | none => cs

/-- What stands behind a string, character or byte, if one is here. -/
def behindText? (cs : List Char) : Option (List Char) :=
  let found :=
    match cs with
    | '"' :: rest => behindString? .text (rest.length + 1) rest
    | 'b' :: '"' :: rest => behindString? .bytes (rest.length + 1) rest
    | 'c' :: '"' :: rest => behindString? .terminated (rest.length + 1) rest
    | 'b' :: '\'' :: rest => behindQuoted? .bytes rest
    | 'b' :: 'r' :: rest => rawString? .bytes rest
    | 'c' :: 'r' :: rest => rawString? .terminated rest
    | 'r' :: rest => rawString? .text rest
    | '\'' :: rest => behindQuoted? .text rest
    | _ => none
  found.map behindSuffix

/-- What stands behind the exponent of a number, from behind its mark, if it has a digit. -/
def behindExponent? (cs : List Char) : Option (List Char) :=
  let unsigned :=
    match cs with
    | '+' :: rest | '-' :: rest => rest
    | _ => cs
  let (run, behind) := unsigned.span fun c => c.isDigit || c == '_'
  if run.any Char.isDigit then some behind else none

/-- What stands behind the digits of a number with a point or an exponent. -/
def behindFloatDigits? (cs : List Char) : Option (List Char) :=
  let isPart (c : Char) := c.isDigit || c == '_'
  if (cs.head?.map Char.isDigit).getD false then
    match cs.dropWhile isPart with
    | '.' :: rest =>
      if (rest.head?.map fun c => c == '.' || isIdentifierStart c).getD false then none
      else
        match rest.dropWhile isPart with
        | 'e' :: behind => some ((behindExponent? behind).getD ('e' :: behind))
        | 'E' :: behind => some ((behindExponent? behind).getD ('E' :: behind))
        | behind => some behind
    | 'e' :: rest | 'E' :: rest => behindExponent? rest
    | _ => none
  else none

/-- What stands behind the digits of a whole number. -/
def behindIntDigits? (cs : List Char) : Option (List Char) :=
  let (base, cs) :=
    match cs with
    | '0' :: 'x' :: rest => (16, rest)
    | '0' :: 'o' :: rest => (8, rest)
    | '0' :: 'b' :: rest => (2, rest)
    | cs => (10, cs)
  let isPart (c : Char) := c == '_' || c.isDigit || (base == 16 && (hexValue? c).isSome)
  let (run, behind) := cs.span isPart
  let digits := run.filterMap hexValue?
  if digits = [] || digits.any (base ≤ ·) || (base == 10 && run.head? == some '_') then none
  else some behind

/-- What stands behind a number with its suffix, if one is here. -/
def behindNumber? (cs : List Char) : Option (List Char) := do
  let ended (behind : List Char) : Option (List Char) :=
    let behind := behindSuffix behind
    if (behind.head?.map isIdentifierContinue).getD false then none else some behind
  (behindFloatDigits? cs >>= ended) <|> (behindIntDigits? cs >>= ended)

/-- What stands behind a literal, if one is here. -/
def behindLiteral? (cs : List Char) : Option (List Char) :=
  behindText? cs <|> behindNumber? cs

/-! ### Marks -/

/-- The characters of marks. The slash of a comment is none. -/
def isMark (cs : List Char) : Bool :=
  match cs with
  | '/' :: '/' :: _ | '/' :: '*' :: _ => false
  | c :: _ => c ∈ "~!@#$%^&*-=+|;:,<.>/?'".toList
  | [] => false

/-- A mark, and what stands behind it. A single quote has to start a lifetime. -/
def mark? (cs : List Char) : Option (Lexeme.Kind × List Char) :=
  match cs with
  | [] => none
  | '\'' :: rest =>
    match ident? rest with
    | none => none
    | some (ident, behind) =>
      if behind.head? = some '\'' || (behind.head? = some '#' && !ident.raw) then none
      else some (.mark '\'' true, rest)
  | c :: rest => if isMark cs then some (.mark c (isMark rest), rest) else none

/-- The bracket that a character is. -/
def bracket? : Char → Option Lexeme.Kind
  | '(' => some (.opening .parenthesis)
  | '[' => some (.opening .bracket)
  | '\x7b' => some (.opening .brace)
  | ')' => some (.closing .parenthesis)
  | ']' => some (.closing .bracket)
  | '\x7d' => some (.closing .brace)
  | _ => none

/-! ### Texts -/

/-- One token other than a bracket, and what stands behind it. -/
def leaf? (cs : List Char) : Option (Lexeme.Kind × List Char) :=
  match behindLiteral? cs with
  | some behind => some (.literal (cs.take (cs.length - behind.length)), behind)
  | none =>
    match mark? cs with
    | some found => some found
    | none =>
      if literalStarts.any (starts · cs) then none
      else (ident? cs).map fun (ident, behind) => (.ident ident, behind)

/-- The tokens that a documentation comment stands for. -/
def documentationTokens (s : List Char) (inner : Bool) : List Lexeme.Kind :=
  [.mark '#' false] ++ (if inner then [.mark '!' false] else [])
    ++ [.opening .bracket, .ident (.plain "doc"), .mark '=' false,
      .literal (Code.stringChars s), .closing .bracket]

/-- A carriage return that no line feed follows. -/
def hasLoneReturn : List Char → Bool
  | [] => false
  | '\r' :: rest => rest.head? != some '\n' || hasLoneReturn rest
  | _ :: rest => hasLoneReturn rest

/-- The mark of an error in generated source text, which is a literal in its own right. -/
def errorMark : List Char :=
  "(/*ERROR*/)".toList

/-- The next tokens, and what stands behind them. -/
def next? (cs : List Char) : Option (List Lexeme.Kind × List Char) :=
  match documentation? cs with
  | some (s, inner, behind) =>
    if hasLoneReturn s then none else some (documentationTokens s inner, behind)
  | none =>
    match after? errorMark cs with
    | some behind => some ([.literal errorMark], behind)
    | none =>
      match cs.head?.bind bracket? with
      | some kind => some ([kind], cs.tail)
      | none => (leaf? cs).map fun (kind, behind) => ([kind], behind)

/-- The tokens of a text from a place on, at most `count` times some. -/
def lexemes? : Nat → Nat → List Char → Option (List Lexeme)
  | 0, _, cs => if cs = [] then some [] else none
  | count + 1, place, cs => do
    let behind := skipBlanks (cs.length + 1) cs
    if behind = [] then return []
    else
      let start := place + (cs.length - behind.length)
      let (kinds, rest) ← next? behind
      let stop := start + (behind.length - rest.length)
      let others ← lexemes? count stop rest
      return kinds.map (⟨·, ⟨start, stop⟩⟩) ++ others

/-- The token trees of a text, if it is one of tokens and all brackets match. A byte-order
mark in front of it is passed over.
-/
def trees? (source : List Char) : Option (List Tree) := do
  let lexemes ←
    match source with
    | '\uFEFF' :: rest => lexemes? (rest.length + 1) 1 rest
    | _ => lexemes? (source.length + 1) 0 source
  nest? [] [] lexemes

end DeclaredSettings.Derive
