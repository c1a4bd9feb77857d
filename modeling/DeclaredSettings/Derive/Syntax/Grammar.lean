import DeclaredSettings.Derive.Syntax.Reader

/-!
What readers of source text need of each other: types hold expressions, expressions hold
blocks, blocks hold items, and items hold types again. A grammar has one reader for each of
these, and tells of what it finds as much as others have to know.
-/

namespace DeclaredSettings.Derive

/-- What is to be known of a type. -/
inductive TypeShape where
  /-- One name with its arguments. -/
  | name
  /-- A path that is no single name. -/
  | path
  /-- One bound without a keyword in front. -/
  | bound
  | other
  deriving DecidableEq, Repr

/-- What is to be known of an expression. -/
inductive ExpressionShape where
  /-- It ends with its block and needs nothing behind it. -/
  | block
  /-- The call of a macro with braces. -/
  | bracedCall
  | range
  | comparison
  /-- It is taken over as it stands. -/
  | raw
  | other
  deriving DecidableEq, Repr

/-- What is to be known of a pattern. -/
inductive PatternShape where
  /-- Two dots alone. -/
  | rest
  /-- A range that has one end only. -/
  | openRange
  | other
  deriving DecidableEq, Repr

/-- What is to be known of a bound. -/
inductive BoundShape where
  | lifetime
  | trait
  | capture
  deriving DecidableEq, Repr

/-- What may stand among bounds, besides lifetimes and traits. -/
structure BoundRules where
  /-- Whether captured names may be listed. -/
  captures : Bool
  /-- Whether a trait may be asked for at compile time. -/
  constants : Bool
  deriving DecidableEq, Repr

/-- Readers of all that lies in each other. -/
structure Grammar where
  /-- A type; `plus` says whether it may be a sum of bounds. -/
  type (plus : Bool) : Reader TypeShape
  /-- An expression; `structs` says whether it may hold braces with fields outside of
  brackets.
  -/
  expression (structs : Bool) : Reader ExpressionShape
  /-- An expression without binary operators. -/
  operand (structs : Bool) : Reader ExpressionShape
  /-- An expression that is a statement or the body of an arm. -/
  early : Reader ExpressionShape
  /-- A pattern without alternatives. -/
  pattern : Reader PatternShape
  bound (rules : BoundRules) : Reader BoundShape
  /-- The statements up to the end of the tokens. -/
  statements : Reader Unit
  /-- Named fields in braces. -/
  fields : Reader Unit
  /-- What is brought into use; `rooted` says whether colons may stand in front in braces,
  and the answer whether they do.
  -/
  useTree (rooted : Bool) : Reader Bool
  /-- An item behind its attributes; tells whether it is taken over as it stands. -/
  item : Reader Bool

/-- The grammar that has room for nothing. -/
def Grammar.exhausted : Grammar where
  type _ := throw .tooDeep
  expression _ := throw .tooDeep
  operand _ := throw .tooDeep
  early := throw .tooDeep
  pattern := throw .tooDeep
  bound _ := throw .tooDeep
  statements := throw .tooDeep
  fields := throw .tooDeep
  useTree _ := throw .tooDeep
  item := throw .tooDeep

end DeclaredSettings.Derive
