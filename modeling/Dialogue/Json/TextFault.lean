/-!
# Faults of a JSON text

The causes for which a text is not JSON, and their wording. Where the fault lies, which is said
after the wording as ` at line 1 column 7`, is left out, also of the failures that quote a fault; no
decision depends on it.
-/

namespace Dialogue.Json

/-- Why a text is not JSON. -/
inductive TextFault where
  /-- The text ends where a value should stand. -/
  | endInValue
  /-- The text ends inside an array. -/
  | endInList
  /-- The text ends inside an object. -/
  | endInObject
  /-- The text ends inside a string. -/
  | endInString
  | noValue
  | noLiteral
  | noColon
  | noCommaOrBrace
  | noCommaOrBracket
  | keyNotString
  | trailingComma
  | trailingCharacters
  | badNumber
  | numberTooLarge
  | badEscape
  /-- An escape for the first or second half of a pair stands without its partner. -/
  | loneSurrogate
  /-- After the escape for the first half of a pair no other escape follows. -/
  | noSecondEscape
  | controlCharacter
  /-- The octets of a string are not UTF-8. -/
  | badCodePoint
  | tooDeep
deriving DecidableEq, Repr

/-- The wording of a fault, without the line and the column. -/
def TextFault.message : TextFault → String
  | .endInValue => "EOF while parsing a value"
  | .endInList => "EOF while parsing a list"
  | .endInObject => "EOF while parsing an object"
  | .endInString => "EOF while parsing a string"
  | .noValue => "expected value"
  | .noLiteral => "expected ident"
  | .noColon => "expected `:`"
  | .noCommaOrBrace => "expected `,` or `\x7d`"
  | .noCommaOrBracket => "expected `,` or `]`"
  | .keyNotString => "key must be a string"
  | .trailingComma => "trailing comma"
  | .trailingCharacters => "trailing characters"
  | .badNumber => "invalid number"
  | .numberTooLarge => "number out of range"
  | .badEscape => "invalid escape"
  | .loneSurrogate => "lone leading surrogate in hex escape"
  | .noSecondEscape => "unexpected end of hex escape"
  | .controlCharacter => "control character (\\u0000-\\u001F) found while parsing a string"
  | .badCodePoint => "invalid unicode code point"
  | .tooDeep => "recursion limit exceeded"

end Dialogue.Json
