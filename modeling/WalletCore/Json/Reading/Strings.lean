import WalletCore.Json.Reading.Basic
import WalletCore.Text.Hexadecimal

/-! # Reading strings

Every reader here starts after the opening quote. An escape by number stands for a 16-bit unit, so
a character beyond the first plane is a pair of units; half a pair is an error.
-/
namespace WalletCore.Json

/-- The value of the four hexadecimal digits at the front. Fewer than four bytes of text are an
early end, whatever they are. -/
def readHex4 (text : List Char) : Except DecodeError (Nat × List Char) :=
  let digits := (text.take 4).filterMap Text.hexValue?
  if digits.length = 4 then
    .ok (digits.foldl (fun value digit => 16 * value + digit) 0, text.drop 4)
  else if (String.ofList (text.take 4)).utf8ByteSize < 4 then .error (.endOfText .string)
  else .error .invalidEscape

/-- The second unit of a pair: another escape by number, in the range of second halves. -/
def readLowSurrogate (text : List Char) : Except DecodeError (Nat × List Char) :=
  match text with
  | [] => .error (.endOfText .string)
  | first :: rest =>
    if first = '\\' then
      match rest with
      | [] => .error (.endOfText .string)
      | second :: rest =>
        if second = 'u' then do
          let (low, rest) ← readHex4 rest
          if 0xdc00 ≤ low ∧ low ≤ 0xdfff then .ok (low, rest) else .error .loneSurrogate
        else .error .unfinishedEscape
    else .error .unfinishedEscape

/-- The character that an escape by number stands for, after its letter. -/
def readNumberedEscape (text : List Char) : Except DecodeError (Char × List Char) := do
  let (unit, rest) ← readHex4 text
  if 0xdc00 ≤ unit ∧ unit ≤ 0xdfff then .error .loneSurrogate
  else if 0xd800 ≤ unit ∧ unit ≤ 0xdbff then do
    let (low, rest) ← readLowSurrogate rest
    .ok (Char.ofNat ((unit - 0xd800) * 0x400 + (low - 0xdc00) + 0x10000), rest)
  else .ok (Char.ofNat unit, rest)

/-- The character that a one-letter escape stands for. -/
def shortEscape? (letter : Char) : Option Char :=
  if letter = '"' then some '"'
  else if letter = '\\' then some '\\'
  else if letter = '/' then some '/'
  else if letter = 'b' then some '\x08'
  else if letter = 'f' then some '\x0c'
  else if letter = 'n' then some '\n'
  else if letter = 'r' then some '\r'
  else if letter = 't' then some '\t'
  else none

/-- The character that an escape stands for, after its backslash. -/
def readEscape (text : List Char) : Except DecodeError (Char × List Char) :=
  match text with
  | [] => .error (.endOfText .string)
  | letter :: rest =>
    if letter = 'u' then readNumberedEscape rest
    else
      match shortEscape? letter with
      | some char => .ok (char, rest)
      | none => .error .invalidEscape

/-- The characters up to the closing quote, after those of `done`, which are in reverse order. -/
def readCharacters : Nat → List Char → Reader (List Char)
  | 0, _, _ => .error (.endOfText .string)
  | _ + 1, _, [] => .error (.endOfText .string)
  | length + 1, done, char :: rest =>
    if char = '"' then .ok (done.reverse, rest)
    else if char = '\\' then
      match readEscape rest with
      | .error cause => .error cause
      | .ok (escaped, rest) => readCharacters length (escaped :: done) rest
    else if char.toNat < 0x20 then .error .controlCharacter
    else readCharacters length (char :: done) rest

/-- A string after its opening quote. -/
def readString (length : Nat) : Reader String := fun text =>
  match readCharacters length [] text with
  | .error cause => .error cause
  | .ok (characters, rest) => .ok (String.ofList characters, rest)

/-- The text after an escape, after its backslash, that is not looked at for what it stands for. -/
def skipEscape (text : List Char) : Except DecodeError (List Char) :=
  match text with
  | [] => .error (.endOfText .string)
  | letter :: rest =>
    if letter = 'u' then (readHex4 rest).map (·.2)
    else if (shortEscape? letter).isSome then .ok rest
    else .error .invalidEscape

/-- The text after the closing quote of a string that is not looked at. -/
def skipString : Nat → List Char → Except DecodeError (List Char)
  | 0, _ => .error (.endOfText .string)
  | _ + 1, [] => .error (.endOfText .string)
  | length + 1, char :: rest =>
    if char = '"' then .ok rest
    else if char = '\\' then
      match skipEscape rest with
      | .error cause => .error cause
      | .ok rest => skipString length rest
    else if char.toNat < 0x20 then .error .controlCharacter
    else skipString length rest

end WalletCore.Json
