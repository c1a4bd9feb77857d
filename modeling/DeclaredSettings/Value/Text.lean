import DeclaredSettings.Value
import DeclaredSettings.Decimal.Layout

/-!
The compact JSON text of a value: no blanks, entries in the order of their keys, and
strings with the fewest escapes.
-/

namespace DeclaredSettings.Value

/-- Numbers of exponents from -5 to 15 are written in full, whole ones with `.0`; the others
have a power of ten whose sign is always written.
-/
def floatLayout : Decimal.Layout :=
  ⟨-5, 15, ['.', '0'], 'e', ['+']⟩

/-- A hexadecimal digit in lower case. -/
def hexDigit (n : Nat) : Char :=
  if n < 10 then Char.ofNat (48 + n) else Char.ofNat (87 + n)

/-- A character inside a string: quote, backslash and the control characters are escaped. -/
def escaped (c : Char) : List Char :=
  match c with
  | '"' => ['\\', '"']
  | '\\' => ['\\', '\\']
  | '\x08' => ['\\', 'b']
  | '\x0c' => ['\\', 'f']
  | '\n' => ['\\', 'n']
  | '\r' => ['\\', 'r']
  | '\t' => ['\\', 't']
  | c =>
    if c.toNat < 0x20 then
      ['\\', 'u', '0', '0', hexDigit (c.toNat / 16), hexDigit (c.toNat % 16)]
    else [c]

/-- A string in quotes. -/
def quoted (s : String) : List Char :=
  '"' :: s.toList.flatMap escaped ++ ['"']

mutual

/-- The characters of the text of a value. -/
def chars : Value → List Char
  | null => ['n', 'u', 'l', 'l']
  | bool true => ['t', 'r', 'u', 'e']
  | bool false => ['f', 'a', 'l', 's', 'e']
  | int n => Decimal.intChars n
  | float x => floatLayout.float x
  | str s => quoted s
  | arr [] => ['[', ']']
  | arr (item :: items) => '[' :: chars item ++ moreItems items
  | obj [] => ['\x7b', '\x7d']
  | obj ((key, value) :: entries) =>
    '\x7b' :: quoted key ++ ':' :: chars value ++ moreEntries entries

/-- The items after the first, each behind a comma, and the end of the array. -/
def moreItems : List Value → List Char
  | [] => [']']
  | item :: items => ',' :: chars item ++ moreItems items

/-- The entries after the first, each behind a comma, and the end of the object. -/
def moreEntries : List (String × Value) → List Char
  | [] => ['\x7d']
  | (key, value) :: entries =>
    ',' :: quoted key ++ ':' :: chars value ++ moreEntries entries

end

/-- The compact JSON text of a value. -/
def text (value : Value) : String :=
  String.ofList (chars value)

end DeclaredSettings.Value
