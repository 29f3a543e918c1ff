/-! What can be wrong with a text that should be a document, each cause with its one wording. -/

namespace SchemaNames

/-- Why a text is not a document. -/
inductive Fault where
  /-- The text ends where a list goes on. -/
  | endOfList
  /-- The text ends where a record goes on. -/
  | endOfRecord
  /-- The text ends inside a quoted text. -/
  | endOfText
  /-- The text ends where a value is due or inside one. -/
  | endOfValue
  | expectedColon
  | expectedListSeparator
  | expectedRecordSeparator
  /-- A word other than `null`, `true` and `false`. -/
  | expectedWord
  | expectedValue
  | invalidEscape
  | invalidNumber
  | numberOutOfRange
  | controlCharacter
  | keyNotText
  | loneSurrogate
  | trailingComma
  | trailingCharacters
  /-- The first half of a surrogate pair without an escape after it. -/
  | endOfEscape
  /-- More open brackets than the limit allows. -/
  | tooDeep
deriving DecidableEq

/-- The wording of a cause. -/
def Fault.message : Fault → String
  | .endOfList => "EOF while parsing a list"
  | .endOfRecord => "EOF while parsing an object"
  | .endOfText => "EOF while parsing a string"
  | .endOfValue => "EOF while parsing a value"
  | .expectedColon => "expected `:`"
  | .expectedListSeparator => "expected `,` or `]`"
  | .expectedRecordSeparator => "expected `,` or `\x7d`"
  | .expectedWord => "expected ident"
  | .expectedValue => "expected value"
  | .invalidEscape => "invalid escape"
  | .invalidNumber => "invalid number"
  | .numberOutOfRange => "number out of range"
  | .controlCharacter => "control character (\\u0000-\\u001F) found while parsing a string"
  | .keyNotText => "key must be a string"
  | .loneSurrogate => "lone leading surrogate in hex escape"
  | .trailingComma => "trailing comma"
  | .trailingCharacters => "trailing characters"
  | .endOfEscape => "unexpected end of hex escape"
  | .tooDeep => "recursion limit exceeded"

/-- A part of a text under its two readings. A value that is wanted is read, and one that is not
is only skipped, which forgives more. -/
structure Lexeme (α : Type) where
  reading : Except Fault α
  skipping : Except Fault Unit

end SchemaNames
