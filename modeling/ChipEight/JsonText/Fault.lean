import ChipEight.Decimal.Shortest
import ChipEight.Text.Quoted

/-!
# Faults of JSON text

Text is read from left to right and the first problem met is the one reported. A problem is of one
of three categories: the text ended too early, it is not JSON, or it is JSON that does not fit the
type it is read at.
-/

namespace ChipEight

namespace JsonText

/-- A value as it is shown in a message. -/
inductive Found where
  /-- A whole number from zero on. -/
  | natural (n : Nat)
  /-- The whole number `-n`. -/
  | negative (n : Nat)
  /-- A number with a fraction or an exponent, or one too large for sixty-four bits. -/
  | real (x : Float)
  | null
  /-- `true` or `false`. -/
  | boolean (b : Bool)
  | text (s : String)
  /-- A list, not looked into. -/
  | sequence
  /-- An object, not looked into. -/
  | map

/-- The words for a value in a message; the marks around it are grave accents. -/
def Found.describe : Found → String
  | .natural n => s!"integer \x60{n}\x60"
  | .negative n => s!"integer \x60-{n}\x60"
  | .real x => s!"floating point \x60{Decimal.text x}\x60"
  | .null => "null"
  | .boolean b => s!"boolean \x60{b}\x60"
  | .text s => "string " ++ quoted s
  | .sequence => "sequence"
  | .map => "map"

/-- What is wrong with a text. -/
inductive Fault where
  /-- The text ended where a value was due or inside one. -/
  | endInValue
  | endInList
  | endInObject
  | endInString
  /-- No value starts here. -/
  | expectedValue
  /-- A misspelt `null`, `true` or `false`. -/
  | expectedWord
  /-- Neither a comma nor the end of the list. -/
  | expectedListComma
  /-- Neither a comma nor the end of the object. -/
  | expectedObjectComma
  /-- No colon behind a key. -/
  | expectedColon
  | keyNotString
  /-- A comma before a closing bracket. -/
  | trailingComma
  /-- More text than a value. -/
  | trailingCharacters
  | invalidNumber
  /-- A number larger than any floating-point number. -/
  | numberOutOfRange
  /-- A malformed escape in a string. -/
  | invalidEscape
  /-- Half of a surrogate pair, the wrong way round or followed by the wrong half. -/
  | loneSurrogate
  /-- The first half of a surrogate pair, followed by no escape. -/
  | unfinishedSurrogate
  | controlCharacter
  /-- A field of the record is not given. -/
  | missingField (name : String)
  /-- A field of the record is given twice. -/
  | duplicateField (name : String)
  /-- A value of another type. -/
  | wrongType (found : Found) (expected : String)
  /-- A whole number that the type cannot hold. -/
  | outOfRange (found : Found) (expected : String)
  /-- A list that ended after `length` values. -/
  | wrongLength (length : Nat) (expected : String)

inductive Category where
  /-- The text ended too early. -/
  | cutShort
  /-- The text is not JSON. -/
  | illFormed
  /-- The text is JSON but does not fit. -/
  | unfit
  deriving DecidableEq, Repr

namespace Fault

def category : Fault → Category
  | .endInValue | .endInList | .endInObject | .endInString => .cutShort
  | .missingField _ | .duplicateField _ | .wrongType .. | .outOfRange .. | .wrongLength .. => .unfit
  | _ => .illFormed

/-- The fault in words. A report of a fault in a file ends with the place where it was met, as
` at line 1 column 2`; the place is left out here, so the words are the same wherever it is. -/
def message : Fault → String
  | .endInValue => "EOF while parsing a value"
  | .endInList => "EOF while parsing a list"
  | .endInObject => "EOF while parsing an object"
  | .endInString => "EOF while parsing a string"
  | .expectedValue => "expected value"
  | .expectedWord => "expected ident"
  | .expectedListComma => "expected \x60,\x60 or \x60]\x60"
  | .expectedObjectComma => "expected \x60,\x60 or \x60\x7d\x60"
  | .expectedColon => "expected \x60:\x60"
  | .keyNotString => "key must be a string"
  | .trailingComma => "trailing comma"
  | .trailingCharacters => "trailing characters"
  | .invalidNumber => "invalid number"
  | .numberOutOfRange => "number out of range"
  | .invalidEscape => "invalid escape"
  | .loneSurrogate => "lone leading surrogate in hex escape"
  | .unfinishedSurrogate => "unexpected end of hex escape"
  | .controlCharacter => "control character (\\u0000-\\u001F) found while parsing a string"
  | .missingField name => s!"missing field \x60{name}\x60"
  | .duplicateField name => s!"duplicate field \x60{name}\x60"
  | .wrongType found expected => s!"invalid type: {found.describe}, expected {expected}"
  | .outOfRange found expected => s!"invalid value: {found.describe}, expected {expected}"
  | .wrongLength length expected => s!"invalid length {length}, expected {expected}"

end Fault

end JsonText

end ChipEight
