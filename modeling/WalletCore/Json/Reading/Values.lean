import WalletCore.Json.Reading.Strings
import WalletCore.Json.Reading.Numbers

/-! # Reading values

Items and members are read one after another by a reader of what stands in them; a value that may
be anything reads its own parts the same way, one bracket deeper. The allowance for depth is
checked when a bracket opens.
-/
namespace WalletCore.Json

variable {α : Type}

/-- The items of an array, after its opening bracket or after an item. -/
def readItems (item : Reader α) : Nat → Bool → Reader (List α)
  | 0, _, _ => .error (.endOfText .list)
  | length + 1, first, text => do
    match ← nextItem first text with
    | none => .ok ([], ← closeArray text)
    | some text =>
      let (value, text) ← item text
      let (values, text) ← readItems item length false text
      .ok (value :: values, text)

/-- The members of an object, after its opening bracket or after a member, in order and with every
repetition. -/
def readMembers (value : Reader α) (nameLength : Nat) :
    Nat → Bool → Reader (List (String × α))
  | 0, _, _ => .error (.endOfText .object)
  | length + 1, first, text => do
    match ← nextMember first text with
    | none => .ok ([], ← closeObject text)
    | some text =>
      let (name, text) ← readString nameLength text
      let (found, text) ← value (← readColon text)
      let (members, text) ← readMembers value nameLength length false text
      .ok ((name, found) :: members, text)

/-- Any value. `inner` reads the parts of arrays and objects; it is missing when no more brackets
may be opened. -/
def readWithin (length : Nat) (inner : Option (Reader Json)) : Reader Json := fun text =>
  match skipBlanks text with
  | [] => .error (.endOfText .value)
  | char :: rest =>
    if char = 'n' then (readLetters ['u', 'l', 'l'] rest).map (.null, ·)
    else if char = 't' then (readLetters ['r', 'u', 'e'] rest).map (.bool true, ·)
    else if char = 'f' then (readLetters ['a', 'l', 's', 'e'] rest).map (.bool false, ·)
    else if char = '"' then
      (readString length rest).map fun (found, rest) => (.string found, rest)
    else if char = '-' ∨ isDigit char then
      (readNumber (char :: rest)).map fun (found, rest) => (.number found, rest)
    else if char = '[' then
      match inner with
      | none => .error .tooDeep
      | some item => (readItems item length true rest).map fun (items, rest) => (.array items, rest)
    else if char = '\x7b' then
      match inner with
      | none => .error .tooDeep
      | some value =>
        (readMembers value length length true rest).map fun (members, rest) =>
          (.ofMembers (Members.ofList members), rest)
    else .error .expectedValue

/-- Any value in which no more than a number of brackets are open at a time. -/
def readValue (length : Nat) : Nat → Reader Json
  | 0 => readWithin length none
  | depth + 1 => readWithin length (some (readValue length depth))

/-- Read a whole text: after the value only blanks may follow. -/
def readAll (reader : Reader α) (text : List Char) : Except DecodeError α := do
  let (value, rest) ← reader text
  match skipBlanks rest with
  | [] => .ok value
  | _ :: _ => .error .trailingCharacters

end WalletCore.Json
