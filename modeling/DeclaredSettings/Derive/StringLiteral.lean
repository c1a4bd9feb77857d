import DeclaredSettings.Derive.Lexer

/-!
String literals of Rust source text: their values, and the literal of a value.
-/

namespace DeclaredSettings.Derive

open Json (hexValue?)

/-- The character of an escape, from behind its backslash, and what stands behind it. -/
def escaped? : List Char → Option (Char × List Char)
  | 'n' :: rest => some ('\n', rest)
  | 'r' :: rest => some ('\r', rest)
  | 't' :: rest => some ('\t', rest)
  | '0' :: rest => some ('\x00', rest)
  | '\\' :: rest => some ('\\', rest)
  | '\'' :: rest => some ('\'', rest)
  | '"' :: rest => some ('"', rest)
  | 'x' :: a :: b :: rest => do
    return (Char.ofNat ((← hexValue? a) * 16 + (← hexValue? b)), rest)
  | 'u' :: rest => (braced? rest).map fun (n, behind) => (Char.ofNat n, behind)
  | _ => none

/-- The characters of a string with escapes, from behind its opening quote; `count` bounds
their number. A backslash at the end of a line passes over the white space that follows.
-/
def cooked? : Nat → List Char → Option (List Char)
  | 0, _ => none
  | _, [] => none
  | _ + 1, '"' :: _ => some []
  | count + 1, '\\' :: '\n' :: rest => cooked? count (rest.dropWhile Char.isWhitespace)
  | count + 1, '\\' :: '\r' :: '\n' :: rest =>
    cooked? count (rest.dropWhile Char.isWhitespace)
  | count + 1, '\\' :: rest => do
    let (c, behind) ← escaped? rest
    return c :: (← cooked? count behind)
  | count + 1, '\r' :: '\n' :: rest => (cooked? count rest).map ('\n' :: ·)
  | count + 1, c :: rest => (cooked? count rest).map (c :: ·)

/-- The value of a string literal; other literals have none. -/
def stringValue? (literal : List Char) : Option String :=
  match literal with
  | '"' :: rest => (cooked? (rest.length + 1) rest).map String.ofList
  | 'r' :: rest => do
    let (hashes, behind) := rest.span (· == '#')
    let content ← after? ['"'] behind
    let close ← behindRaw? .text hashes content
    let size := content.length - close.length - hashes.length - 1
    return String.ofList (content.take size)
  | _ => none

end DeclaredSettings.Derive
