/-!
Tokens of Rust source text: the flat ones that a text consists of, and the trees that
brackets make of them. Every token knows which stretch of the text it came from.
-/

namespace DeclaredSettings.Derive

/-- A stretch of a text: the characters from one number up to, and without, another. -/
structure Span where
  start : Nat
  stop : Nat
  deriving DecidableEq, Repr

namespace Span

/-- The stretch from the start of one to the end of another. -/
def upTo (first last : Span) : Span :=
  ⟨first.start, last.stop⟩

/-- The characters of a stretch. -/
def excerpt (span : Span) (source : List Char) : String :=
  String.ofList ((source.drop span.start).take (span.stop - span.start))

end Span

/-- The three kinds of brackets. -/
inductive Delimiter where
  | parenthesis
  | bracket
  | brace
  deriving DecidableEq, Repr

/-- An identifier, which is raw if it is written with `r#`. -/
structure Ident where
  raw : Bool
  name : String
  deriving DecidableEq, Repr

namespace Ident

/-- An identifier without `r#`. -/
def plain (name : String) : Ident :=
  ⟨false, name⟩

/-- The identifier as it is written. -/
def text (ident : Ident) : String :=
  if ident.raw then "r#" ++ ident.name else ident.name

end Ident

/-- What a flat token is. -/
inductive Lexeme.Kind where
  | ident (ident : Ident)
  /-- A mark of one character, which may be joined to the mark behind it. -/
  | mark (c : Char) (joined : Bool)
  /-- A literal, as it is written. -/
  | literal (text : List Char)
  | opening (delimiter : Delimiter)
  | closing (delimiter : Delimiter)
  deriving DecidableEq, Repr

/-- A flat token. -/
structure Lexeme where
  kind : Lexeme.Kind
  span : Span
  deriving DecidableEq, Repr

/-- A token, or tokens in brackets. -/
inductive Tree where
  | ident (ident : Ident) (span : Span)
  | mark (c : Char) (joined : Bool) (span : Span)
  | literal (text : List Char) (span : Span)
  | group (delimiter : Delimiter) (content : List Tree) (opening closing : Span)
  deriving Repr

namespace Tree

/-- The stretch that an error at this token is put at: the opening bracket of a group. -/
def span : Tree → Span
  | ident _ span => span
  | mark _ _ span => span
  | literal _ span => span
  | group _ _ opening _ => opening

/-- The stretch of the whole token. -/
def wholeSpan : Tree → Span
  | group _ _ opening closing => opening.upTo closing
  | tree => tree.span

end Tree

/-- Brackets that are open: which one, where, and the tokens in front of it, backwards. -/
structure Frame where
  delimiter : Delimiter
  opening : Span
  before : List Tree

/-- The trees of flat tokens, if every bracket is closed by its own kind. The frames are the
brackets open so far, and `done` holds the tokens in the innermost one, backwards.
-/
def nest? : List Frame → List Tree → List Lexeme → Option (List Tree)
  | [], done, [] => some done.reverse
  | _ :: _, _, [] => none
  | frames, done, ⟨.ident ident, span⟩ :: rest =>
    nest? frames (.ident ident span :: done) rest
  | frames, done, ⟨.mark c joined, span⟩ :: rest =>
    nest? frames (.mark c joined span :: done) rest
  | frames, done, ⟨.literal text, span⟩ :: rest =>
    nest? frames (.literal text span :: done) rest
  | frames, done, ⟨.opening delimiter, span⟩ :: rest =>
    nest? (⟨delimiter, span, done⟩ :: frames) [] rest
  | [], _, ⟨.closing _, _⟩ :: _ => none
  | frame :: frames, done, ⟨.closing delimiter, span⟩ :: rest =>
    if frame.delimiter = delimiter then
      nest? frames (.group delimiter done.reverse frame.opening span :: frame.before) rest
    else none

end DeclaredSettings.Derive
