import ForeignEval.Decimal.Layout
import ForeignEval.Text.Quoted

/-!
# Errors of JSON reading

Why a text is no JSON, or is JSON of another shape than wanted. Reading goes from left to right
and stops at the first problem, so there is always one error.
-/

namespace ForeignEval.Json

/-- What stands in a text where something else was wanted. -/
inductive Found where
  /-- The literal `null`. -/
  | null
  | truth (value : Bool)
  /-- A number without fraction and exponent. -/
  | integer (value : Int)
  /-- Any other number. -/
  | floating (value : Double)
  | text (value : String)
  /-- An array. -/
  | sequence
  /-- An object. -/
  | map
deriving DecidableEq

/-- How messages call what was found. -/
def Found.name : Found → String
  | null => "null"
  | truth value => "boolean `" ++ toString value ++ "`"
  | integer value => "integer `" ++ toString value ++ "`"
  | floating value => "floating point `" ++ Decimal.Layout.json.text value ++ "`"
  | text value => "string " ++ Text.quoted value
  | sequence => "sequence"
  | map => "map"

/-- Why a text could not be read. -/
inductive ReadError where
  /-- The text ends where a value should stand. -/
  | endInValue
  /-- The text ends inside an array. -/
  | endInList
  /-- The text ends inside an object. -/
  | endInObject
  /-- The text ends inside a string. -/
  | endInString
  /-- A key is not followed by a colon. -/
  | expectedColon
  /-- An element is followed by neither a comma nor the end of the array. -/
  | expectedListEnd
  /-- A member is followed by neither a comma nor the end of the object. -/
  | expectedObjectEnd
  /-- A literal is misspelt. -/
  | expectedIdentifier
  /-- No value starts this way. -/
  | expectedValue
  /-- A backslash is followed by no known escape. -/
  | invalidEscape
  /-- A number is malformed. -/
  | invalidNumber
  /-- A number is too large for a double. -/
  | outOfRange
  /-- A string contains a control character. -/
  | controlCharacter
  /-- A member starts with something else than a string. -/
  | keyMustBeString
  /-- A comma is followed by the end of the array or object. -/
  | trailingComma
  /-- Something follows the value. -/
  | trailingCharacters
  /-- One half of a surrogate pair stands where it cannot. -/
  | loneSurrogate
  /-- The first half of a surrogate pair is not followed by another escape. -/
  | endOfHexEscape
  /-- A value is of another kind than wanted. -/
  | invalidType (found : Found) (expected : String)
  /-- An integer is out of the wanted range. -/
  | invalidValue (found : Int) (expected : String)
  /-- An array is too short for the structure it stands for. -/
  | invalidLength (length : Nat) (expected : String)
  /-- A member occurs twice. -/
  | duplicateField (name : String)
  /-- A member is absent. -/
  | missingField (name : String)
  /-- The values do not fill the rows. -/
  | wrongCount (values rows dimension : Nat)
deriving DecidableEq

/-- The wording of a reading error. -/
def ReadError.message : ReadError → String
  | endInValue => "EOF while parsing a value"
  | endInList => "EOF while parsing a list"
  | endInObject => "EOF while parsing an object"
  | endInString => "EOF while parsing a string"
  | expectedColon => "expected `:`"
  | expectedListEnd => "expected `,` or `]`"
  | expectedObjectEnd => "expected `,` or `\x7d`"
  | expectedIdentifier => "expected ident"
  | expectedValue => "expected value"
  | invalidEscape => "invalid escape"
  | invalidNumber => "invalid number"
  | outOfRange => "number out of range"
  | controlCharacter => "control character (\\u0000-\\u001F) found while parsing a string"
  | keyMustBeString => "key must be a string"
  | trailingComma => "trailing comma"
  | trailingCharacters => "trailing characters"
  | loneSurrogate => "lone leading surrogate in hex escape"
  | endOfHexEscape => "unexpected end of hex escape"
  | invalidType found expected => "invalid type: " ++ found.name ++ ", expected " ++ expected
  | invalidValue found expected =>
    "invalid value: " ++ (Found.integer found).name ++ ", expected " ++ expected
  | invalidLength length expected =>
    "invalid length " ++ toString length ++ ", expected " ++ expected
  | duplicateField name => "duplicate field `" ++ name ++ "`"
  | missingField name => "missing field `" ++ name ++ "`"
  | wrongCount values rows dimension =>
    toString values ++ " values cannot form " ++ toString rows ++ " rows of dimension " ++
      toString dimension

/-- Reads something at the front of a text and leaves the rest. -/
abbrev Reader (α : Type) := List Char → Except ReadError (α × List Char)

/-- Whether a character may stand between the parts of a document. -/
def isSpace (c : Char) : Bool := c = ' ' || c = '\t' || c = '\n' || c = '\r'

/-- The text from its first character that is no space. -/
def skipSpace (s : List Char) : List Char := s.dropWhile isSpace

end ForeignEval.Json
