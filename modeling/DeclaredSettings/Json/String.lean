import DeclaredSettings.Json.Fault

/-!
Strings in JSON text: plain characters, short escapes, and hexadecimal escapes of one or two
UTF-16 units.
-/

namespace DeclaredSettings.Json

open Text

/-- The value of a hexadecimal digit. -/
def hexValue? (c : Char) : Option Nat :=
  if c.isDigit then some (c.toNat - 48)
  else if 'a' ≤ c && c ≤ 'f' then some (c.toNat - 87)
  else if 'A' ≤ c && c ≤ 'F' then some (c.toNat - 55)
  else none

/-- The number of four hexadecimal digits. -/
def hexFour? (a b c d : Char) : Option Nat := do
  return ((← hexValue? a) * 16 + (← hexValue? b)) * 256
    + (← hexValue? c) * 16 + (← hexValue? d)

/-- The UTF-16 unit behind the mark of a hexadecimal escape. Four bytes are looked at, and a
text that ends before is at fault at its end.
-/
def unit (cur : Cursor) : Except Fault (Nat × Cursor) :=
  let bytes := (cur.rest.take 4).foldl (fun n c => n + c.utf8Size) 0
  if bytes < 4 then .error ⟨.endInString, cur.finish⟩
  else
    match cur.rest with
    | a :: b :: c :: d :: rest =>
      match hexFour? a b c d with
      | some n => .ok (n, ⟨rest, cur.position.pastAll [a, b, c, d]⟩)
      | none => .error ⟨.badEscape, cur.position.pastBytes 4 cur.rest⟩
    | _ => .error ⟨.badEscape, cur.position.pastBytes 4 cur.rest⟩

/-- Expects one character of the start of a second unit. -/
def secondUnitMark (mark : Char) (cur : Cursor) : Except Fault Cursor :=
  match cur.rest with
  | [] => .error ⟨.endInString, cur.position⟩
  | c :: _ =>
    if c = mark then .ok cur.advance else .error ⟨.surrogateUnfinished, cur.pastNextByte⟩

/-- The character of a hexadecimal escape, from behind its mark. A unit of the upper
surrogates has to be followed by the escape of a lower one.
-/
def hexEscape (cur : Cursor) : Except Fault (Char × Cursor) := do
  let (first, behind) ← unit cur
  if 0xDC00 ≤ first && first < 0xE000 then .error ⟨.loneSurrogate, behind.position⟩
  else if 0xD800 ≤ first && first < 0xDC00 then
    let cur ← secondUnitMark '\\' behind
    let cur ← secondUnitMark 'u' cur
    let (second, behind) ← unit cur
    if 0xDC00 ≤ second && second < 0xE000 then
      .ok (Char.ofNat (0x10000 + (first - 0xD800) * 0x400 + (second - 0xDC00)), behind)
    else .error ⟨.loneSurrogate, behind.position⟩
  else .ok (Char.ofNat first, behind)

/-- The character that a one-letter escape stands for. -/
def shortEscape? : Char → Option Char
  | '"' => some '"'
  | '\\' => some '\\'
  | '/' => some '/'
  | 'b' => some '\x08'
  | 'f' => some '\x0c'
  | 'n' => some '\n'
  | 'r' => some '\r'
  | 't' => some '\t'
  | _ => none

/-- The character of an escape, from behind the backslash. -/
def escape (cur : Cursor) : Except Fault (Char × Cursor) :=
  match cur.rest with
  | [] => .error ⟨.endInString, cur.position⟩
  | 'u' :: _ => hexEscape cur.advance
  | c :: _ =>
    match shortEscape? c with
    | some plain => .ok (plain, cur.advance)
    | none => .error ⟨.badEscape, cur.pastNextByte⟩

/-- The next character of a string, or nothing at the closing quote. -/
def stringStep (cur : Cursor) : Except Fault (Option Char × Cursor) :=
  match cur.rest with
  | [] => .error ⟨.endInString, cur.position⟩
  | '"' :: _ => .ok (none, cur.advance)
  | '\\' :: _ => do
    let (c, behind) ← escape cur.advance
    .ok (some c, behind)
  | c :: _ =>
    if c.toNat < 0x20 then .error ⟨.controlCharacter, cur.advance.position⟩
    else .ok (some c, cur.advance)

/-- The characters up to the closing quote, at most `count` of them: a step takes at least
one character, so a string of a text has no more than the text.
-/
def stringChars : Nat → Cursor → Except Fault (List Char × Cursor)
  | 0, cur => .error ⟨.endInString, cur.finish⟩
  | count + 1, cur => do
    let (next, behind) ← stringStep cur
    match next with
    | none => .ok ([], behind)
    | some c =>
      let (cs, behind) ← stringChars count behind
      .ok (c :: cs, behind)

/-- A string, from behind its opening quote. -/
def string (cur : Cursor) : Except Fault (String × Cursor) := do
  let (cs, behind) ← stringChars (cur.rest.length + 1) cur
  .ok (String.ofList cs, behind)

end DeclaredSettings.Json
