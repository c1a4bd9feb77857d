import DeclaredSettings.Derive.Syntax.Sign

/-!
Why tokens are not the syntax that is asked for, and how that is reported.
-/

namespace DeclaredSettings.Derive

/-- What is wrong with tokens, apart from a certain token that is missing. -/
inductive Objection where
  | noExpression
  | noDelimiter
  | noMember
  | noSegment
  | noName
  | noCommaOrSemicolon
  | noSemicolon
  | noRangeEnd
  | noLoop
  /-- Comparisons follow each other. -/
  | chained
  /-- Something is put to a cast that cannot be. -/
  | behindCast (what : String)
  | attributesOnRange
  | attributeInAttribute
  | openRangeInSlice
  | labelBehindBreak
  | noInteger
  | noDigit
  | suffixOnIndex
  | greatIndex
  | genericWhere
  | noTraitInObject
  | noTraitAtAll
  | noCapture
  | noConst (text : String)
  | relaxedBinder
  | receiver (second : Bool)
  | negative
  deriving DecidableEq, Repr

/-- The report of what is wrong. -/
def Objection.message : Objection → String
  | noExpression => "expected an expression"
  | noDelimiter => "expected delimiter"
  | noMember => "expected identifier or integer"
  | noSegment => "expected path segment after `::`"
  | noName => "expected identifier or underscore"
  | noCommaOrSemicolon => "expected `,` or `;`"
  | noSemicolon => "unexpected token, expected `;`"
  | noRangeEnd => "expected range upper bound"
  | noLoop => "expected loop or block expression"
  | chained => "comparison operators cannot be chained"
  | behindCast what => "casts cannot be followed by " ++ what
  | attributesOnRange =>
    "attributes are not allowed on range expressions starting with `..`"
  | attributeInAttribute => "unexpected attribute inside of attribute"
  | openRangeInSlice =>
    "range pattern is not allowed unparenthesized inside slice pattern"
  | labelBehindBreak => "parentheses required"
  | noInteger => "expected integer literal"
  | noDigit => "invalid digit found in string"
  | suffixOnIndex => "expected unsuffixed integer"
  | greatIndex => "number too large to fit in target type"
  | genericWhere => "generic parameters on `where` clauses are reserved for future use"
  | noTraitInObject => "at least one trait is required for an object type"
  | noTraitAtAll => "at least one trait must be specified"
  | noCapture => "`use<...>` precise capturing syntax is not allowed here"
  | noConst text => "`" ++ text ++ "` is not allowed here"
  | relaxedBinder =>
    "`for<...>` binder not allowed with `?` trait polarity modifier"
  | receiver true => "unexpected second method receiver"
  | receiver false => "unexpected method receiver"
  | negative => "inherent impls cannot be negative"

/-- Why tokens are not the syntax that is asked for. -/
inductive SyntaxFault where
  /-- One of some tokens is missing; the tokens may be at their end. -/
  | missing (atEnd : Bool) (choices : List Sign)
  /-- Marks are missing. -/
  | noMark (text : String)
  /-- A keyword is where an identifier should be. -/
  | keyword (name : String)
  | wrong (atEnd : Bool) (what : Objection)
  /-- Something is left over in brackets, or at the end of the text. -/
  | left (delimiter : Option Delimiter)
  /-- The text does not even consist of tokens. -/
  | noTokens
  /-- Things lie deeper in each other than was allowed for. -/
  | tooDeep
  deriving DecidableEq, Repr

/-- A message that says so if the tokens were at their end. -/
def atEndOr (atEnd : Bool) (message : String) : String :=
  if atEnd then "unexpected end of input, " ++ message else message

/-- The report of a fault. -/
def SyntaxFault.message : SyntaxFault → String
  | missing true [] => "unexpected end of input"
  | missing false [] => "unexpected token"
  | missing atEnd [sign] => atEndOr atEnd ("expected " ++ sign.shown)
  | missing atEnd [first, second] =>
    atEndOr atEnd ("expected " ++ first.shown ++ " or " ++ second.shown)
  | missing atEnd choices =>
    atEndOr atEnd ("expected one of: " ++ ", ".intercalate (choices.map Sign.shown))
  | noMark text => "expected `" ++ text ++ "`"
  | keyword name => "expected identifier, found keyword `" ++ name ++ "`"
  | wrong atEnd what => atEndOr atEnd what.message
  | left none => "unexpected token"
  | left (some .parenthesis) => "unexpected token, expected `)`"
  | left (some .bracket) => "unexpected token, expected `]`"
  | left (some .brace) => "unexpected token, expected `\x7d`"
  | noTokens => "cannot parse string into token stream"
  | tooDeep => "recursion limit exceeded"

end DeclaredSettings.Derive
