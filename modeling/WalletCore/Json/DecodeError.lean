import WalletCore.Json.Basic
import WalletCore.Text.Quoted

/-! # Errors of decoding

Decoding fails on text that is not JSON and on JSON that is not of the expected shape. Each error
is a cause; `DecodeError.message` gives it its wording.
-/
namespace WalletCore

/-- What was being read when the text ended. -/
inductive Unfinished where
  /-- A value. -/
  | value
  /-- The items of an array. -/
  | list
  /-- The members of an object. -/
  | object
  /-- A string. -/
  | string
deriving DecidableEq

/-- What stands in the text or value instead of what was expected. -/
inductive Found where
  /-- The null value. -/
  | null
  /-- A truth value. -/
  | bool (value : Bool)
  /-- A number. -/
  | number (value : Number)
  /-- A string. -/
  | string (value : String)
  /-- An array. -/
  | sequence
  /-- An object. -/
  | map
deriving DecidableEq

/-- What is expected in a place. -/
inductive Expected where
  /-- A truth value. -/
  | bool
  /-- An unsigned word. -/
  | unsigned
  /-- A signed word. -/
  | signed
  /-- A string. -/
  | string
  /-- An array. -/
  | sequence
  /-- An object of any members. -/
  | map
  /-- A record of the given name. -/
  | record (name : String)
deriving DecidableEq

/-- Why text or a value cannot be decoded. -/
inductive DecodeError where
  /-- The text ends too early. -/
  | endOfText (within : Unfinished)
  /-- No value starts here. -/
  | expectedValue
  /-- A literal is misspelt. -/
  | expectedLiteral
  /-- A member name has no colon after it. -/
  | expectedColon
  /-- An item is followed by neither a comma nor the end of the array. -/
  | expectedItemEnd
  /-- A member is followed by neither a comma nor the end of the object. -/
  | expectedMemberEnd
  /-- A member name is not a string. -/
  | nameNotString
  /-- A comma stands before a closing bracket. -/
  | trailingComma
  /-- Something stands after the end. -/
  | trailingCharacters
  /-- An escape is unknown. -/
  | invalidEscape
  /-- A number is malformed. -/
  | invalidNumber
  /-- A number is too large. -/
  | numberOutOfRange
  /-- A control character stands in a string. -/
  | controlCharacter
  /-- A surrogate stands alone in a string. -/
  | loneSurrogate
  /-- The second half of a surrogate pair is missing. -/
  | unfinishedEscape
  /-- Too many brackets are open. -/
  | tooDeep
  /-- A value has the wrong kind. -/
  | invalidType (found : Found) (expected : Expected)
  /-- An integer is outside the range. -/
  | invalidValue (found : Found) (expected : Expected)
  /-- An array holds too few items for a record. -/
  | tooFewItems (length : Nat) (record : String) (fields : Nat)
  /-- An array holds too many items for a record. -/
  | tooManyItems (length : Nat)
  /-- A record lacks a field. -/
  | missingField (name : String)
  /-- A record repeats a field. -/
  | duplicateField (name : String)
  /-- A value fits none of the forms of a type. -/
  | noMatchingForm (type : String)
deriving DecidableEq

namespace Unfinished

/-- The wording of a place. -/
def text : Unfinished → String
  | .value => "a value"
  | .list => "a list"
  | .object => "an object"
  | .string => "a string"

end Unfinished

namespace Found

/-- What a value is to a decoder that expected something else. -/
def ofJson : Json → Found
  | .null => .null
  | .bool value => .bool value
  | .number value => .number value
  | .string value => .string value
  | .array _ => .sequence
  | .object _ => .map

/-- The wording of what was found. -/
def text : Found → String
  | .null => "null"
  | .bool value => "boolean \x60" ++ (if value then "true" else "false") ++ "\x60"
  | .number (.integer value _) =>
    "integer \x60" ++ String.ofList (Number.integerText value) ++ "\x60"
  | .number (.float value) =>
    "floating point \x60" ++ String.ofList (Number.floatText value) ++ "\x60"
  | .string value => "string " ++ Text.quoted value
  | .sequence => "sequence"
  | .map => "map"

end Found

namespace Expected

/-- The wording of what was expected. -/
def text : Expected → String
  | .bool => "a boolean"
  | .unsigned => "u64"
  | .signed => "i64"
  | .string => "a string"
  | .sequence => "a sequence"
  | .map => "a map"
  | .record name => "struct " ++ name

end Expected

namespace DecodeError

/-- The wording of an error. -/
def message : DecodeError → String
  | .endOfText within => "EOF while parsing " ++ within.text
  | .expectedValue => "expected value"
  | .expectedLiteral => "expected ident"
  | .expectedColon => "expected \x60:\x60"
  | .expectedItemEnd => "expected \x60,\x60 or \x60]\x60"
  | .expectedMemberEnd => "expected \x60,\x60 or \x60\x7d\x60"
  | .nameNotString => "key must be a string"
  | .trailingComma => "trailing comma"
  | .trailingCharacters => "trailing characters"
  | .invalidEscape => "invalid escape"
  | .invalidNumber => "invalid number"
  | .numberOutOfRange => "number out of range"
  | .controlCharacter => "control character (\\u0000-\\u001F) found while parsing a string"
  | .loneSurrogate => "lone leading surrogate in hex escape"
  | .unfinishedEscape => "unexpected end of hex escape"
  | .tooDeep => "recursion limit exceeded"
  | .invalidType found expected => "invalid type: " ++ found.text ++ ", expected " ++ expected.text
  | .invalidValue found expected =>
    "invalid value: " ++ found.text ++ ", expected " ++ expected.text
  | .tooFewItems length record fields =>
    "invalid length " ++ toString length ++ ", expected struct " ++ record ++ " with " ++
      toString fields ++ (if fields = 1 then " element" else " elements")
  | .tooManyItems length =>
    "invalid length " ++ toString length ++ ", expected fewer elements in array"
  | .missingField name => "missing field \x60" ++ name ++ "\x60"
  | .duplicateField name => "duplicate field \x60" ++ name ++ "\x60"
  | .noMatchingForm type => "data did not match any variant of untagged enum " ++ type

end DecodeError

end WalletCore
