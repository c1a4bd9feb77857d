import DeclaredSettings.Text.Unseen
import DeclaredSettings.Value.Text

/-!
Strings and values as they are shown in messages: everything a reader could not see is
written by its number.
-/

namespace DeclaredSettings.Text

/-- A natural number in lower-case hexadecimal digits. -/
def hexText (n : Nat) : List Char :=
  Nat.toDigits 16 n

/-- A character inside a shown string. -/
def shownChar (c : Char) : List Char :=
  match c with
  | '\x00' => ['\\', '0']
  | '\t' => ['\\', 't']
  | '\r' => ['\\', 'r']
  | '\n' => ['\\', 'n']
  | '"' => ['\\', '"']
  | '\\' => ['\\', '\\']
  | c => if isUnseen c then ['\\', 'u', '\x7b'] ++ hexText c.toNat ++ ['\x7d'] else [c]

/-- A string as it is shown, in quotes. -/
def shown (s : String) : String :=
  String.ofList ('"' :: s.toList.flatMap shownChar ++ ['"'])

end DeclaredSettings.Text

namespace DeclaredSettings.Value

open Text

mutual

/-- A value as it is shown: null as `None`, numbers as in JSON text, and lists and objects
with a blank behind each comma and colon.
-/
def shown : Value → String
  | null => "None"
  | bool b => if b then "true" else "false"
  | int n => String.ofList (Decimal.intChars n)
  | float x => String.ofList (floatLayout.float x)
  | str s => Text.shown s
  | arr items => "[" ++ ", ".intercalate (shownItems items) ++ "]"
  | obj entries => "\x7b" ++ ", ".intercalate (shownEntries entries) ++ "\x7d"

/-- The shown items of an array. -/
def shownItems : List Value → List String
  | [] => []
  | item :: items => shown item :: shownItems items

/-- The shown entries of an object. -/
def shownEntries : List (String × Value) → List String
  | [] => []
  | (key, value) :: entries =>
    (Text.shown key ++ ": " ++ shown value) :: shownEntries entries

end

end DeclaredSettings.Value
