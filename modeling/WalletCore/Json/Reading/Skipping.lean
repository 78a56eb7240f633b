import WalletCore.Json.Reading.Strings
import WalletCore.Json.Reading.Numbers

/-! # Passing over values

A member that a record does not know is passed over. Its text must be well formed, but nesting has
no limit, numbers may be too large and surrogates may stand alone. One loop walks the text with
the open brackets on a stack.
-/
namespace WalletCore.Json

/-- A bracket that is open. -/
inductive Bracket where
  /-- The bracket of an array. -/
  | array
  /-- The bracket of an object. -/
  | object
deriving DecidableEq

/-- What comes next while a value is passed over. -/
inductive Ahead where
  /-- A value. -/
  | value
  /-- The name of a member. -/
  | name
  /-- The first part inside a bracket, or its end. -/
  | opened
  /-- A comma or the end of the bracket, after a part of it. -/
  | part

/-- The bracket that ends an open one. -/
def Bracket.closing : Bracket → Char
  | .array => ']'
  | .object => '\x7d'

/-- What is unfinished while a bracket is open. -/
def Bracket.unfinished : Bracket → Unfinished
  | .array => .list
  | .object => .object

/-- What is missing when a part of an open bracket is followed by something else. -/
def Bracket.expectedEnd : Bracket → DecodeError
  | .array => .expectedItemEnd
  | .object => .expectedMemberEnd

/-- What comes before each part of an open bracket. -/
def Bracket.next : Bracket → Ahead
  | .array => .value
  | .object => .name

/-- The text after a value that has no parts. -/
def skipScalar (length : Nat) (text : List Char) : Except DecodeError (List Char) :=
  match text with
  | [] => .error (.endOfText .value)
  | char :: rest =>
    if char = 'n' then readLetters ['u', 'l', 'l'] rest
    else if char = 't' then readLetters ['r', 'u', 'e'] rest
    else if char = 'f' then readLetters ['a', 'l', 's', 'e'] rest
    else if char = '"' then skipString length rest
    else if char = '-' ∨ isDigit char then skipNumber text
    else .error .expectedValue

/-- The text after the opening quote of a name, the name and its colon. -/
def skipName (length : Nat) (text : List Char) : Except DecodeError (List Char) :=
  match text with
  | [] => .error (.endOfText .object)
  | char :: rest =>
    if char = '"' then do readColon (← skipString length rest) else .error .nameNotString

/-- The text after a value, with the brackets that are open around the place reached. The first
number bounds the steps; every second step takes a character at least. -/
def skipLoop (length : Nat) :
    Nat → Ahead → List Bracket → List Char → Except DecodeError (List Char)
  | 0, _, _, _ => .error (.endOfText .value)
  | steps + 1, ahead, stack, text =>
    let text := skipBlanks text
    match ahead, stack with
    | .value, _ =>
      match text with
      | '[' :: rest => skipLoop length steps .opened (.array :: stack) rest
      | '\x7b' :: rest => skipLoop length steps .opened (.object :: stack) rest
      | _ =>
        match skipScalar length text with
        | .error cause => .error cause
        | .ok rest => skipLoop length steps .part stack rest
    | .name, _ =>
      match skipName length text with
      | .error cause => .error cause
      | .ok rest => skipLoop length steps .value stack rest
    | .part, [] => .ok text
    | .opened, [] => .ok text
    | .part, bracket :: outer =>
      match text with
      | [] => .error (.endOfText bracket.unfinished)
      | char :: rest =>
        if char = ',' then skipLoop length steps bracket.next stack rest
        else if char = bracket.closing then skipLoop length steps .part outer rest
        else .error bracket.expectedEnd
    | .opened, bracket :: outer =>
      match text with
      | [] => .error (.endOfText bracket.unfinished)
      | char :: rest =>
        if char = bracket.closing then skipLoop length steps .part outer rest
        else skipLoop length steps bracket.next stack (char :: rest)

/-- The text after a value that is not looked at. -/
def skipValue (length : Nat) (text : List Char) : Except DecodeError (List Char) :=
  skipLoop length (4 * length) .value [] text

end WalletCore.Json
