import DeclaredSettings.Json.String

/-!
Strings in TOML: with escapes or literal, on one line or on several.
-/

namespace DeclaredSettings.Toml

open Json (hexValue?)

/-- The characters that no string and no comment may hold: controls other than the tab. -/
def isControl (c : Char) : Bool :=
  (c.toNat < 0x20 && c != '\t') || c.toNat == 0x7F

/-- The character whose number is written in exactly `count` hexadecimal digits, and what
stands behind it.
-/
def numbered? (count : Nat) (cs : List Char) : Option (Char × List Char) := do
  let digits ← (cs.take count).mapM hexValue?
  let n := digits.foldl (fun n d => n * 16 + d) 0
  if digits.length = count && n.isValidChar then some (Char.ofNat n, cs.drop count)
  else none

/-- The character of an escape, from behind the backslash, and what stands behind it. -/
def escape? : List Char → Option (Char × List Char)
  | 'b' :: rest => some ('\x08', rest)
  | 't' :: rest => some ('\t', rest)
  | 'n' :: rest => some ('\n', rest)
  | 'f' :: rest => some ('\x0c', rest)
  | 'r' :: rest => some ('\r', rest)
  | 'e' :: rest => some ('\x1b', rest)
  | '"' :: rest => some ('"', rest)
  | '\\' :: rest => some ('\\', rest)
  | 'x' :: rest => numbered? 2 rest
  | 'u' :: rest => numbered? 4 rest
  | 'U' :: rest => numbered? 8 rest
  | _ => none

/-- The blanks within a line. -/
def isBlank (c : Char) : Bool :=
  c == ' ' || c == '\t'

/-- What stands behind the end of a line, if one is here. -/
def lineEnd? : List Char → Option (List Char)
  | '\n' :: rest => some rest
  | '\r' :: '\n' :: rest => some rest
  | _ => none

/-- What stands behind blanks and ends of lines. -/
def skipEmptyLines : List Char → List Char
  | [] => []
  | '\r' :: '\n' :: rest => skipEmptyLines rest
  | c :: rest => if isBlank c || c == '\n' then skipEmptyLines rest else c :: rest

/-- What stands behind a backslash at the end of a line, and behind the blanks and empty
lines that follow; nothing if the line does not end here.
-/
def continued? (cs : List Char) : Option (List Char) :=
  (lineEnd? (cs.dropWhile isBlank)).map skipEmptyLines

/-- A step through a string: the characters that it adds, whether the string ends with it,
and what stands behind it.
-/
structure Piece where
  added : List Char
  ends : Bool
  rest : List Char

/-- The next piece of a string with escapes on one line. -/
def basicPiece? : List Char → Option Piece
  | [] => none
  | '"' :: rest => some ⟨[], true, rest⟩
  | '\\' :: rest => do
    let (c, rest) ← escape? rest
    return ⟨[c], false, rest⟩
  | c :: rest => if isControl c then none else some ⟨[c], false, rest⟩

/-- The next piece of a literal string on one line. -/
def literalPiece? : List Char → Option Piece
  | [] => none
  | '\'' :: rest => some ⟨[], true, rest⟩
  | c :: rest => if isControl c then none else some ⟨[c], false, rest⟩

/-- The quotes in front of a text of several lines: three of them end it, and up to two more
belong to it.
-/
def quotes (quote : Char) (cs : List Char) : Piece :=
  let count := (cs.takeWhile (· == quote)).length
  if count < 3 then ⟨List.replicate count quote, false, cs.drop count⟩
  else
    let taken := min count 5
    ⟨List.replicate (taken - 3) quote, true, cs.drop taken⟩

/-- The next plain character of a string of several lines. A carriage return belongs to the
end of a line, which is kept as it is.
-/
def plainPiece? : List Char → Option Piece
  | [] => none
  | '\r' :: '\n' :: rest => some ⟨['\r', '\n'], false, rest⟩
  | '\n' :: rest => some ⟨['\n'], false, rest⟩
  | c :: rest => if isControl c then none else some ⟨[c], false, rest⟩

/-- The next piece of a string with escapes on several lines. -/
def basicLinesPiece? : List Char → Option Piece
  | '"' :: rest => some (quotes '"' ('"' :: rest))
  | '\\' :: rest =>
    match continued? rest with
    | some rest => some ⟨[], false, rest⟩
    | none => do
      let (c, rest) ← escape? rest
      return ⟨[c], false, rest⟩
  | cs => plainPiece? cs

/-- The next piece of a literal string on several lines. -/
def literalLinesPiece? : List Char → Option Piece
  | '\'' :: rest => some (quotes '\'' ('\'' :: rest))
  | cs => plainPiece? cs

/-- Joins pieces until the string ends, at most `count` of them. Every piece takes at
least one character, so a string of a text has no more pieces than the text has characters.
-/
def join? (piece? : List Char → Option Piece)
    : Nat → List Char → Option (List Char × List Char)
  | 0, _ => none
  | count + 1, cs => do
    let piece ← piece? cs
    if piece.ends then return (piece.added, piece.rest)
    else
      let (others, rest) ← join? piece? count piece.rest
      return (piece.added ++ others, rest)

/-- A string of a kind, from behind its opening quotes. -/
def body? (piece? : List Char → Option Piece) (cs : List Char)
    : Option (String × List Char) := do
  let (chars, rest) ← join? piece? (cs.length + 1) cs
  return (String.ofList chars, rest)

/-- What follows the opening quotes of a string of several lines, without the end of the
line on which they stand.
-/
def opened (cs : List Char) : List Char :=
  (lineEnd? cs).getD cs

/-- A string on one line, and what stands behind it. -/
def lineString? : List Char → Option (String × List Char)
  | '"' :: rest => body? basicPiece? rest
  | '\'' :: rest => body? literalPiece? rest
  | _ => none

/-- Any string, and what stands behind it. -/
def string? : List Char → Option (String × List Char)
  | '"' :: '"' :: '"' :: rest => body? basicLinesPiece? (opened rest)
  | '\'' :: '\'' :: '\'' :: rest => body? literalLinesPiece? (opened rest)
  | cs => lineString? cs

end DeclaredSettings.Toml
