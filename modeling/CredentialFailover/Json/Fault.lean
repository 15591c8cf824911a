/-
What can be wrong with a JSON text, and where.

A reader reports a cause together with the number of octets that stand after the place it blames; `Failure.describe` turns
that into a line, counted from 1, and a column, counted in octets after the last line feed before the place.
-/
import CredentialFailover.Text.Ascii

namespace CredentialFailover.Json

/-- what is wrong with a text -/
inductive Cause where
  | endInValue
  | endInList
  | endInObject
  | endInText
  | badWord
  | noValue
  | noColon
  | noListSeparator
  | noObjectSeparator
  | trailingComma
  | trailingCharacters
  | keyNotText
  | tooDeep
  | badNumber
  | numberOutOfRange
  | badEscape
  | controlCharacter
  | illFormedText
  | loneSurrogate
  | brokenSurrogatePair
  deriving DecidableEq

/-- the wording of a cause -/
def Cause.message : Cause → String
  | .endInValue => "EOF while parsing a value"
  | .endInList => "EOF while parsing a list"
  | .endInObject => "EOF while parsing an object"
  | .endInText => "EOF while parsing a string"
  | .badWord => "expected ident"
  | .noValue => "expected value"
  | .noColon => "expected `:`"
  | .noListSeparator => "expected `,` or `]`"
  | .noObjectSeparator => "expected `,` or `\x7d`"
  | .trailingComma => "trailing comma"
  | .trailingCharacters => "trailing characters"
  | .keyNotText => "key must be a string"
  | .tooDeep => "recursion limit exceeded"
  | .badNumber => "invalid number"
  | .numberOutOfRange => "number out of range"
  | .badEscape => "invalid escape"
  | .controlCharacter => "control character (\\u0000-\\u001F) found while parsing a string"
  | .illFormedText => "invalid unicode code point"
  | .loneSurrogate => "lone leading surrogate in hex escape"
  | .brokenSurrogatePair => "unexpected end of hex escape"

/-- a cause, and how many octets of the text stand after the place it blames -/
structure Failure where
  cause : Cause
  after : Nat
  deriving DecidableEq

/-- the blame lies between what was read and the rest -/
def failBefore {α : Type} (cause : Cause) (rest : List UInt8) : Except Failure α := .error ⟨cause, rest.length⟩

/-- the blame lies on the first octet of the rest, if there is one -/
def failAt {α : Type} (cause : Cause) (rest : List UInt8) : Except Failure α := .error ⟨cause, rest.length - 1⟩

/-- the line that a text has reached at its end, counted from 1 -/
def line (bs : List UInt8) : Nat := bs.count Ascii.lineFeed + 1

/-- the number of octets that a text has after its last line feed -/
def column (bs : List UInt8) : Nat := (bs.reverse.takeWhile (· != Ascii.lineFeed)).length

/-- a failure in words, with its place in the text -/
def Failure.describe (f : Failure) (text : List UInt8) : String :=
  let before := text.take (text.length - f.after)
  f.cause.message ++ " at line " ++ toString (line before) ++ " column " ++ toString (column before)

/-- a reader takes a value off the front of a text -/
abbrev Reader (α : Type) := List UInt8 → Except Failure (α × List UInt8)

end CredentialFailover.Json
