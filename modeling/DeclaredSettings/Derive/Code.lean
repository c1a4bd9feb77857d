import DeclaredSettings.Derive.Token
import DeclaredSettings.Text.Shown

/-!
Rust code as it is generated: tokens and groups in brackets, and the one text of them. A
blank stands between two tokens, and inside braces, but not inside other brackets, and not
behind a mark that is joined to the next one.
-/

namespace DeclaredSettings.Derive

/-- A token of generated code, or code in brackets. -/
inductive Code where
  | token (text : String)
  /-- A mark with no blank behind it. -/
  | joined (text : String)
  | group (delimiter : Delimiter) (content : List Code)
  deriving Repr

namespace Code

mutual

/-- Whether two tokens or groups are equal. -/
def decEq : (code other : Code) → Decidable (code = other)
  | token text, token other => decidable_of_iff (text = other) (by simp)
  | joined text, joined other => decidable_of_iff (text = other) (by simp)
  | group delimiter content, group other contents =>
    match decEqs content contents with
    | isTrue h => decidable_of_iff (delimiter = other) (by simp [h])
    | isFalse h => isFalse (by simp [h])
  | token _, joined _ | token _, group _ _ => isFalse nofun
  | joined _, token _ | joined _, group _ _ => isFalse nofun
  | group _ _, token _ | group _ _, joined _ => isFalse nofun

/-- Whether two pieces of code are equal. -/
def decEqs : (code other : List Code) → Decidable (code = other)
  | [], [] => isTrue rfl
  | [], _ :: _ | _ :: _, [] => isFalse nofun
  | first :: code, second :: other =>
    match decEqs code other with
    | isTrue h =>
      match decEq first second with
      | isTrue hfirst => isTrue (by rw [h, hfirst])
      | isFalse hfirst => isFalse (by simp [hfirst])
    | isFalse h => isFalse (by simp [h])

end

instance : DecidableEq Code :=
  decEq

mutual

/-- The text of one token or group. -/
def text : Code → String
  | token text => text
  | joined text => text
  | group .parenthesis content => "(" ++ render content ++ ")"
  | group .bracket content => "[" ++ render content ++ "]"
  | group .brace [] => "\x7b \x7d"
  | group .brace content => "\x7b " ++ render content ++ " \x7d"

/-- The text of code. -/
def render : List Code → String
  | [] => ""
  | [code] => text code
  | joined text :: content => text ++ render content
  | code :: content => text code ++ " " ++ render content

end

/-- Tokens that are written with blanks between them. -/
def words (s : String) : List Code :=
  (s.toList.splitOn ' ').map fun cs => token (String.ofList cs)

/-- Code in parentheses. -/
def parens (content : List Code) : Code :=
  group .parenthesis content

/-- Code in brackets. -/
def brackets (content : List Code) : Code :=
  group .bracket content

/-- Code in braces. -/
def braces (content : List Code) : Code :=
  group .brace content

/-- The identifier as a token. -/
def ident (i : Ident) : Code :=
  token i.text

mutual

/-- A token of source text as it stands there. -/
def ofTree : Tree → Code
  | .ident i _ => ident i
  | .mark c true _ => joined (String.singleton c)
  | .mark c false _ => token (String.singleton c)
  | .literal text _ => token (String.ofList text)
  | .group delimiter content _ _ => group delimiter (ofTrees content)

/-- Tokens of source text as they stand there. -/
def ofTrees : List Tree → List Code
  | [] => []
  | tree :: trees => ofTree tree :: ofTrees trees

end

/-- The characters inside a string literal. A zero in front of an octal digit is written by
its number, so that it does not swallow the digit.
-/
def escapedChars : List Char → List Char
  | [] => []
  | '\x00' :: cs =>
    let octal := (cs.head?.map fun c => '0' ≤ c && c ≤ '7').getD false
    (if octal then ['\\', 'x', '0', '0'] else ['\\', '0']) ++ escapedChars cs
  | c :: cs => Text.shownChar c ++ escapedChars cs

/-- The string literal of some characters. -/
def stringChars (cs : List Char) : List Char :=
  '"' :: escapedChars cs ++ ['"']

/-- The string literal of a value. -/
def string (s : String) : Code :=
  token (String.ofList (stringChars s.toList))

end Code

end DeclaredSettings.Derive
