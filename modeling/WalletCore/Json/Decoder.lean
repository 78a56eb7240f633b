import WalletCore.Json.Reading.Skipping
import WalletCore.Json.Reading.Values
import WalletCore.Table

/-! # Decoders

A decoder obtains a value of a domain type from a JSON value, or straight from text. From text the
first problem in the order of the text is the one that counts, whether it is one of spelling or of
kind: a value of the wrong kind is refused when its first character shows the kind, except that
scalars are read first.
-/
namespace WalletCore

open Json

/-- Two ways to obtain a value of a type: from a JSON value and from text. -/
structure Decoder (α : Type) where
  /-- Decode a JSON value. -/
  ofJson : Json → Except DecodeError α
  /-- Read the value at the front of a text. -/
  read : Allowance → Reader α

namespace Decoder

variable {α β : Type}

/-- Decode a whole text. -/
def ofText (decoder : Decoder α) (text : String) : Except DecodeError α :=
  readAll (decoder.read (.ofText maxDepth text.toList)) text.toList

/-- Apply a function to every decoded value. -/
def map (f : α → β) (decoder : Decoder α) : Decoder β where
  ofJson value := (decoder.ofJson value).map f
  read allowance text := (decoder.read allowance text).map fun (value, rest) => (f value, rest)

/-- The error for a JSON value of the wrong kind. -/
def wrongKind (expected : Expected) (value : Json) : DecodeError :=
  .invalidType (.ofJson value) expected

/-- The error for text, without leading blanks, whose value has the wrong kind. -/
def wrongKindAt (expected : Expected) (length : Nat) (text : List Char) : DecodeError :=
  let scalar (read : Except DecodeError Found) : DecodeError :=
    match read with
    | .ok found => .invalidType found expected
    | .error cause => cause
  match text with
  | [] => .endOfText .value
  | char :: rest =>
    if char = 'n' then scalar ((readLetters ['u', 'l', 'l'] rest).map fun _ => .null)
    else if char = 't' then scalar ((readLetters ['r', 'u', 'e'] rest).map fun _ => .bool true)
    else if char = 'f' then
      scalar ((readLetters ['a', 'l', 's', 'e'] rest).map fun _ => .bool false)
    else if char = '"' then scalar ((readString length rest).map fun (found, _) => .string found)
    else if char = '-' ∨ isDigit char then
      scalar ((readNumber text).map fun (found, _) => .number found)
    else if char = '[' then .invalidType .sequence expected
    else if char = '\x7b' then .invalidType .map expected
    else .expectedValue

/-- Any JSON value. -/
def any : Decoder Json where
  ofJson value := .ok value
  read allowance := readValue allowance.length allowance.depth

/-- A string. -/
def string : Decoder String where
  ofJson
    | .string value => .ok value
    | other => .error (wrongKind .string other)
  read allowance text :=
    match skipBlanks text with
    | '"' :: rest => readString allowance.length rest
    | text => .error (wrongKindAt .string allowance.length text)

/-- A truth value. -/
def bool : Decoder Bool where
  ofJson
    | .bool value => .ok value
    | other => .error (wrongKind .bool other)
  read allowance text :=
    match skipBlanks text with
    | 't' :: rest => (readLetters ['r', 'u', 'e'] rest).map (true, ·)
    | 'f' :: rest => (readLetters ['a', 'l', 's', 'e'] rest).map (false, ·)
    | text => .error (wrongKindAt .bool allowance.length text)

/-- A number that a conversion accepts; `convert` gives the error for the others. -/
def numeric (expected : Expected) (convert : Number → Except DecodeError α) : Decoder α where
  ofJson
    | .number value => convert value
    | other => .error (wrongKind expected other)
  read allowance text :=
    match skipBlanks text with
    | [] => .error (.endOfText .value)
    | char :: rest =>
      if char = '-' ∨ isDigit char then do
        let (found, rest) ← readNumber (char :: rest)
        .ok (← convert found, rest)
      else .error (wrongKindAt expected allowance.length (char :: rest))

/-- An unsigned word of 64 bits. -/
def unsigned : Decoder UInt64 :=
  numeric .unsigned fun
    | .integer value inRange =>
      if 0 ≤ value then .ok (UInt64.ofNat value.toNat)
      else .error (.invalidValue (.number (.integer value inRange)) .unsigned)
    | .float value => .error (.invalidType (.number (.float value)) .unsigned)

/-- A signed word of 64 bits. -/
def signed : Decoder Int64 :=
  numeric .signed fun
    | .integer value inRange =>
      if value ≤ Int64.maxValue.toInt then .ok (Int64.ofInt value)
      else .error (.invalidValue (.number (.integer value inRange)) .signed)
    | .float value => .error (.invalidType (.number (.float value)) .signed)

/-- A value that null stands in for when it is missing. -/
def optional (decoder : Decoder α) : Decoder (Option α) where
  ofJson
    | .null => .ok none
    | value => (decoder.ofJson value).map some
  read allowance text :=
    match skipBlanks text with
    | 'n' :: rest => (readLetters ['u', 'l', 'l'] rest).map (none, ·)
    | text => (decoder.read allowance text).map fun (value, rest) => (some value, rest)

/-- Read what is inside the bracket that comes next, one bracket deeper; `wrong` is the error when
another character comes next. -/
def readBracket (opening : Char) (wrong : List Char → DecodeError)
    (inside : Allowance → Reader α) (allowance : Allowance) : Reader α := fun text =>
  match skipBlanks text with
  | [] => .error (.endOfText .value)
  | char :: rest =>
    if char = opening then
      match allowance.depth with
      | 0 => .error .tooDeep
      | depth + 1 => inside { allowance with depth } rest
    else .error (wrong (char :: rest))

/-- An array of values. -/
def list (item : Decoder α) : Decoder (List α) where
  ofJson
    | .array items => items.mapM item.ofJson
    | other => .error (wrongKind .sequence other)
  read allowance :=
    readBracket '[' (wrongKindAt .sequence allowance.length)
      (fun inner => readItems (item.read inner) inner.length true) allowance

/-- The members of an object of any names, in order and with every repetition. -/
def entries (value : Decoder α) : Decoder (List (String × α)) where
  ofJson
    | .object members => members.mapM fun (name, found) => do .ok (name, ← value.ofJson found)
    | other => .error (wrongKind .map other)
  read allowance :=
    readBracket '\x7b' (wrongKindAt .map allowance.length)
      (fun inner => readMembers (value.read inner) inner.length inner.length true) allowance

/-- An object of any names, in key order; the last value of a name holds. -/
def table (value : Decoder α) : Decoder (Table α) := (entries value).map Table.ofList

/-- An object of any members, in order of arrival; the last value of a name holds. -/
def members : Decoder (Members Json) := (entries any).map Members.ofList

end Decoder

end WalletCore
