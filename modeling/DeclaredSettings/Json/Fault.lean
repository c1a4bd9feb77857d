import DeclaredSettings.Text.Cursor
import DeclaredSettings.Decimal.Layout

/-!
What can be wrong with a JSON text, where it was noticed, and how it is reported.
-/

namespace DeclaredSettings.Json

open Text

/-- What is wrong with a JSON text. -/
inductive Cause where
  | endInValue
  | endInString
  | endInArray
  | endInObject
  | valueExpected
  | literalExpected
  | badNumber
  | numberTooBig
  | controlCharacter
  | badEscape
  | loneSurrogate
  | surrogateUnfinished
  | trailingComma
  | itemEndExpected
  | entryEndExpected
  | keyNotString
  | colonExpected
  | nestedTooDeeply
  | trailingCharacters
  deriving DecidableEq, Repr

/-- The report of a cause. -/
def Cause.message : Cause → String
  | endInValue => "EOF while parsing a value"
  | endInString => "EOF while parsing a string"
  | endInArray => "EOF while parsing a list"
  | endInObject => "EOF while parsing an object"
  | valueExpected => "expected value"
  | literalExpected => "expected ident"
  | badNumber => "invalid number"
  | numberTooBig => "number out of range"
  | controlCharacter => "control character (\\u0000-\\u001F) found while parsing a string"
  | badEscape => "invalid escape"
  | loneSurrogate => "lone leading surrogate in hex escape"
  | surrogateUnfinished => "unexpected end of hex escape"
  | trailingComma => "trailing comma"
  | itemEndExpected => "expected `,` or `]`"
  | entryEndExpected => "expected `,` or `\x7d`"
  | keyNotString => "key must be a string"
  | colonExpected => "expected `:`"
  | nestedTooDeeply => "recursion limit exceeded"
  | trailingCharacters => "trailing characters"

/-- A cause and the place where it was noticed. -/
structure Fault where
  cause : Cause
  place : Position
  deriving DecidableEq, Repr

/-- The report of a fault, with its line and column. -/
def Fault.message (fault : Fault) : String :=
  fault.cause.message ++ " at line " ++ Decimal.natText fault.place.line ++ " column "
    ++ Decimal.natText fault.place.column

end DeclaredSettings.Json
