import Relay.Text.Utf8

/-!
# Faults in JSON text

A reader that refuses a text says why (`Cause`) and where. The place is kept as what is left of the
text there, together with a number of bytes further on (`Fault`); only `Fault.locate` turns it into
a line and a column, counted in bytes.
-/

namespace Relay.Json

/-! ## 1. Causes -/

/-- Why a text is refused. -/
inductive Cause where
  | eofInValue
  | eofInString
  | eofInList
  | eofInObject
  | expectedValue
  | expectedIdent
  | expectedColon
  | expectedCommaOrBracket
  | expectedCommaOrBrace
  | keyMustBeString
  | trailingComma
  | trailingCharacters
  | invalidNumber
  | numberOutOfRange
  | invalidEscape
  | controlCharacter
  | loneSurrogate
  | unexpectedEndOfHexEscape
  | recursionLimit
  /-- A value of one kind where another was expected. -/
  | invalidType (found expected : String)
  /-- A value of the right kind that is not allowed. -/
  | invalidValue (found expected : String)
  /-- A list that ends too early. -/
  | invalidLength (length : Nat) (expected : String)
  | missingField (name : String)
  | duplicateField (name : String)
  deriving Repr, DecidableEq

/-- The wording of a cause. -/
def Cause.message : Cause → String
  | .eofInValue => "EOF while parsing a value"
  | .eofInString => "EOF while parsing a string"
  | .eofInList => "EOF while parsing a list"
  | .eofInObject => "EOF while parsing an object"
  | .expectedValue => "expected value"
  | .expectedIdent => "expected ident"
  | .expectedColon => "expected `:`"
  | .expectedCommaOrBracket => "expected `,` or `]`"
  | .expectedCommaOrBrace => "expected `,` or `\x7d`"
  | .keyMustBeString => "key must be a string"
  | .trailingComma => "trailing comma"
  | .trailingCharacters => "trailing characters"
  | .invalidNumber => "invalid number"
  | .numberOutOfRange => "number out of range"
  | .invalidEscape => "invalid escape"
  | .controlCharacter => "control character (\\u0000-\\u001F) found while parsing a string"
  | .loneSurrogate => "lone leading surrogate in hex escape"
  | .unexpectedEndOfHexEscape => "unexpected end of hex escape"
  | .recursionLimit => "recursion limit exceeded"
  | .invalidType found expected => "invalid type: " ++ found ++ ", expected " ++ expected
  | .invalidValue found expected => "invalid value: " ++ found ++ ", expected " ++ expected
  | .invalidLength length expected =>
    "invalid length " ++ toString length ++ ", expected " ++ expected
  | .missingField name => "missing field `" ++ name ++ "`"
  | .duplicateField name => "duplicate field `" ++ name ++ "`"

/-! ## 2. Places -/

/-- A cause and its place: `ahead` bytes behind the start of `rest`, or the end of the text when
that comes first. -/
structure Fault where
  cause : Cause
  rest : List Char
  ahead : Nat := 0
  deriving Repr

/-- What a reader answers: a result and what is left of the text, or a fault. -/
abbrev Reading (α : Type) := Except Fault (α × List Char)

/-- Refuses at the start of `rest`. -/
def failAt {α : Type} (cause : Cause) (rest : List Char) : Except Fault α :=
  .error { cause, rest }

/-- Refuses just behind the first byte of `rest`. -/
def failNext {α : Type} (cause : Cause) (rest : List Char) : Except Fault α :=
  .error { cause, rest, ahead := 1 }

/-- A cause with its line (from 1) and the number of bytes before the place in that line. -/
structure Located where
  cause : Cause
  line : Nat
  column : Nat
  deriving Repr, DecidableEq

/-- The place of a fault in the text that was read. -/
def Fault.locate (text : List Char) (fault : Fault) : Located :=
  let bytes := Text.Utf8.encode text
  let offset := bytes.length - (Text.Utf8.encode fault.rest).length + fault.ahead
  let before := bytes.take offset
  { cause := fault.cause
    line := before.count 0x0A + 1
    column := (before.reverse.takeWhile (· != 0x0A)).length }

/-- The wording of a located cause. -/
def Located.message (e : Located) : String :=
  e.cause.message ++ " at line " ++ toString e.line ++ " column " ++ toString e.column

end Relay.Json
