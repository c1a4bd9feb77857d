import DeclaredSettings.Derive.Token

/-!
What can be told from the next tokens of Rust source text before they are read.
-/

namespace DeclaredSettings.Derive

/-- The keywords of the language, and the names reserved for it. -/
def keywords : List String :=
  ["_", "abstract", "as", "async", "await", "become", "box", "break", "const", "continue",
    "crate", "do", "dyn", "else", "enum", "extern", "false", "final", "fn", "for", "if",
    "impl", "in", "let", "loop", "macro", "match", "mod", "move", "mut", "override", "priv",
    "pub", "ref", "return", "Self", "self", "static", "struct", "super", "trait", "true",
    "try", "type", "typeof", "unsafe", "unsized", "use", "virtual", "where", "while",
    "yield"]

/-- Whether an identifier is a keyword. A raw one is none. -/
def Ident.isKeyword (ident : Ident) : Bool :=
  !ident.raw && ident.name ∈ keywords

/-- Something that can be asked for at a place between tokens. -/
inductive Sign where
  /-- Marks that make one token together. -/
  | mark (text : String)
  | word (text : String)
  /-- An identifier that is no keyword. -/
  | ident
  /-- An identifier or a keyword. -/
  | anyIdent
  | lifetime
  /-- A literal, a truth value, or a negative number. -/
  | literal
  | string
  | group (delimiter : Delimiter)
  deriving DecidableEq, Repr

namespace Sign

/-- How a report calls it. -/
def shown : Sign → String
  | mark text => "`" ++ text ++ "`"
  | word text => "`" ++ text ++ "`"
  | ident => "identifier"
  | anyIdent => "ident"
  | lifetime => "lifetime"
  | literal => "literal"
  | string => "string literal"
  | group .parenthesis => "parentheses"
  | group .bracket => "square brackets"
  | group .brace => "curly braces"

/-- Whether marks stand in front that make one token together: all but the last of them are
joined to the next.
-/
def areMarks : List Char → List Tree → Bool
  | [c], .mark d _ _ :: _ => c == d
  | c :: cs, .mark d true _ :: rest => c == d && areMarks cs rest
  | _, _ => false

/-- Whether a literal is a number. -/
def isNumber (text : List Char) : Bool :=
  (text.head?.map Char.isDigit).getD false

/-- Whether a literal is a string. -/
def isString (text : List Char) : Bool :=
  text.head? == some '"' || text.head? == some 'r'

/-- Whether it stands in front of these tokens. -/
def isAt (sign : Sign) (cs : List Tree) : Bool :=
  match sign, cs with
  | mark text, cs => areMarks text.toList cs
  | word text, .ident found _ :: _ => found == .plain text
  | ident, .ident found _ :: _ => !found.isKeyword
  | anyIdent, .ident _ _ :: _ => true
  | lifetime, .mark '\'' _ _ :: .ident _ _ :: _ => true
  | literal, .literal _ _ :: _ => true
  | literal, .ident found _ :: _ => found == .plain "true" || found == .plain "false"
  | literal, .mark '-' _ _ :: .literal text _ :: _ => isNumber text
  | string, .literal text _ :: _ => isString text
  | group delimiter, .group found _ _ _ :: _ => found == delimiter
  | _, _ => false

/-- The tokens behind the next one, where a lifetime counts as one. -/
def behind : List Tree → List Tree
  | .mark '\'' _ _ :: .ident _ _ :: rest => rest
  | cs => cs.tail

/-- Whether it stands behind the next token. -/
def isSecond (sign : Sign) (cs : List Tree) : Bool :=
  sign.isAt (behind cs)

/-- Whether it stands behind the next two tokens. -/
def isThird (sign : Sign) (cs : List Tree) : Bool :=
  sign.isAt (behind (behind cs))

end Sign

end DeclaredSettings.Derive
