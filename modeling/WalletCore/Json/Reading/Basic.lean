import WalletCore.Json.DecodeError

/-! # Reading JSON text

A reader takes the characters that are left and returns a value with the characters after it. It
stops at the first problem in the order of the text. The readers here find the parts of arrays and
objects; what stands in them is left to the readers of their items.
-/
namespace WalletCore.Json

/-- A reader of values at the front of a text. -/
abbrev Reader (α : Type) : Type := List Char → Except DecodeError (α × List Char)

/-- What a reader may spend. -/
structure Allowance where
  /-- How many more brackets may be opened inside one another. -/
  depth : Nat
  /-- More than the number of characters left. It bounds every loop and ends none early. -/
  length : Nat

/-- The allowance of a whole text in which at most `depth` brackets may be open at a time. -/
def Allowance.ofText (depth : Nat) (text : List Char) : Allowance := ⟨depth, text.length + 1⟩

/-- The deepest nesting of arrays and objects that is read. -/
def maxDepth : Nat := 127

/-- The blanks that may stand between the parts of a text. -/
def isBlank (char : Char) : Bool :=
  char = ' ' || char = '\n' || char = '\t' || char = '\r'

/-- The text after its leading blanks. -/
def skipBlanks (text : List Char) : List Char := text.dropWhile isBlank

/-- The text after the remaining letters of a literal. -/
def readLetters : List Char → List Char → Except DecodeError (List Char)
  | [], text => .ok text
  | _ :: _, [] => .error (.endOfText .value)
  | letter :: letters, char :: text =>
    if char = letter then readLetters letters text else .error .expectedLiteral

/-- The next item of an array: the text at the item, or nothing when the closing bracket comes
next. Every item but the first has a comma before it. -/
def nextItem (first : Bool) (text : List Char) : Except DecodeError (Option (List Char)) :=
  match skipBlanks text with
  | [] => .error (.endOfText .list)
  | char :: rest =>
    if char = ']' then .ok none
    else if first then .ok (some (char :: rest))
    else if char = ',' then
      match skipBlanks rest with
      | [] => .error (.endOfText .value)
      | next :: rest => if next = ']' then .error .trailingComma else .ok (some (next :: rest))
    else .error .expectedItemEnd

/-- The text after the closing bracket of an array. -/
def closeArray (text : List Char) : Except DecodeError (List Char) :=
  match skipBlanks text with
  | [] => .error (.endOfText .list)
  | char :: rest =>
    if char = ']' then .ok rest
    else if char = ',' then
      match skipBlanks rest with
      | next :: _ => if next = ']' then .error .trailingComma else .error .trailingCharacters
      | [] => .error .trailingCharacters
    else .error .trailingCharacters

/-- The next member of an object: the text after the opening quote of its name, or nothing when
the closing bracket comes next. Every member but the first has a comma before it. -/
def nextMember (first : Bool) (text : List Char) : Except DecodeError (Option (List Char)) :=
  match skipBlanks text with
  | [] => .error (.endOfText .object)
  | char :: rest =>
    if char = '\x7d' then .ok none
    else if first then
      if char = '"' then .ok (some rest) else .error .nameNotString
    else if char = ',' then
      match skipBlanks rest with
      | [] => .error (.endOfText .value)
      | next :: rest =>
        if next = '"' then .ok (some rest)
        else if next = '\x7d' then .error .trailingComma
        else .error .nameNotString
    else .error .expectedMemberEnd

/-- The text after the closing bracket of an object whose members have been read. -/
def closeObject (text : List Char) : Except DecodeError (List Char) :=
  match skipBlanks text with
  | [] => .error (.endOfText .object)
  | char :: rest => if char = '\x7d' then .ok rest else .error .trailingCharacters

/-- The text after the colon that follows a name. -/
def readColon (text : List Char) : Except DecodeError (List Char) :=
  match skipBlanks text with
  | [] => .error (.endOfText .object)
  | char :: rest => if char = ':' then .ok rest else .error .expectedColon

end WalletCore.Json
