/-! What can be wrong with JSON text. A part of the text that nobody reads is held to a looser grammar, so every fault of
the grammar is known by its two wordings. -/
namespace Letterpress.Json

inductive Fault
  | endInValue | endInList | endInObject | endInString
  | expectedColon | expectedListEnd | expectedObjectEnd | expectedIdentifier | expectedValue
  | invalidEscape | invalidNumber | numberOutOfRange | controlCharacter | keyNotString
  | loneSurrogate | cutSurrogate | trailingComma | trailingCharacters | tooDeep
  deriving DecidableEq, Repr

def Fault.message : Fault → String
  | endInValue => "EOF while parsing a value"
  | endInList => "EOF while parsing a list"
  | endInObject => "EOF while parsing an object"
  | endInString => "EOF while parsing a string"
  | expectedColon => "expected `:`"
  | expectedListEnd => "expected `,` or `]`"
  | expectedObjectEnd => "expected `,` or `\x7d`"
  | expectedIdentifier => "expected ident"
  | expectedValue => "expected value"
  | invalidEscape => "invalid escape"
  | invalidNumber => "invalid number"
  | numberOutOfRange => "number out of range"
  | controlCharacter => "control character (\\u0000-\\u001F) found while parsing a string"
  | keyNotString => "key must be a string"
  | loneSurrogate => "lone leading surrogate in hex escape"
  | cutSurrogate => "unexpected end of hex escape"
  | trailingComma => "trailing comma"
  | trailingCharacters => "trailing characters"
  | tooDeep => "recursion limit exceeded"

/-- A fault of the grammar, as it is met by a reader and by one who passes over the part. -/
structure Tear where
  read : Fault
  passed : Fault
  deriving DecidableEq, Repr

def Tear.both (fault : Fault) : Tear := ⟨fault, fault⟩

end Letterpress.Json
