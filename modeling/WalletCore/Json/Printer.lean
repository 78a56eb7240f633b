import WalletCore.Json.Basic

/-! # Written values

A layout says what stands before each item and after each colon; it only ever adds blanks. The
compact layout adds none. The pretty layout puts each item on a line of its own, indented by two
blanks for every open bracket. Empty arrays and objects are written as a pair of brackets in both.
-/
namespace WalletCore.Json

/-- How a written value is spread over lines. -/
structure Layout where
  /-- What stands before an item, or before a closing bracket, under a number of open brackets. -/
  lineBreak : Nat → List Char
  /-- What stands between a name and its value. -/
  colon : List Char

/-- Everything on one line, without blanks. -/
def Layout.compact : Layout := ⟨fun _ => [], [':']⟩

/-- One item a line, two blanks for every open bracket. -/
def Layout.pretty : Layout := ⟨fun depth => '\n' :: List.replicate (2 * depth) ' ', [':', ' ']⟩

/-- A digit of the four that follow an escaped code point. -/
def hexDigit (value : Nat) : Char := Nat.digitChar (value % 16)

/-- One character of a written string: the short escapes, four digits for the other controls, and
everything else as it is. -/
def escape (char : Char) : List Char :=
  if char = '"' then ['\\', '"']
  else if char = '\\' then ['\\', '\\']
  else if char = '\x08' then ['\\', 'b']
  else if char = '\x0c' then ['\\', 'f']
  else if char = '\n' then ['\\', 'n']
  else if char = '\r' then ['\\', 'r']
  else if char = '\t' then ['\\', 't']
  else if char.toNat < 0x20 then
    ['\\', 'u', '0', '0', hexDigit (char.toNat / 16), hexDigit char.toNat]
  else [char]

/-- A string between quotes. -/
def writeString (text : String) : List Char :=
  '"' :: text.toList.flatMap escape ++ ['"']

/-- Items between brackets, with commas between them. -/
def Layout.enclose (layout : Layout) (depth : Nat) (opening closing : Char) :
    List (List Char) → List Char
  | [] => [opening, closing]
  | first :: others =>
    opening :: layout.lineBreak (depth + 1) ++ first ++
      others.flatMap (fun item => ',' :: layout.lineBreak (depth + 1) ++ item) ++
      layout.lineBreak depth ++ [closing]

mutual

/-- A written value under a number of open brackets. -/
def write (layout : Layout) (depth : Nat) : Json → List Char
  | .null => ['n', 'u', 'l', 'l']
  | .bool true => ['t', 'r', 'u', 'e']
  | .bool false => ['f', 'a', 'l', 's', 'e']
  | .number value => value.text
  | .string value => writeString value
  | .array items => layout.enclose depth '[' ']' (writeItems layout (depth + 1) items)
  | .object members => layout.enclose depth '\x7b' '\x7d' (writeMembers layout (depth + 1) members)

/-- The written items of an array. -/
def writeItems (layout : Layout) (depth : Nat) : List Json → List (List Char)
  | [] => []
  | item :: items => write layout depth item :: writeItems layout depth items

/-- The written members of an object. -/
def writeMembers (layout : Layout) (depth : Nat) : List (String × Json) → List (List Char)
  | [] => []
  | (name, value) :: members =>
    (writeString name ++ layout.colon ++ write layout depth value) ::
      writeMembers layout depth members

end

/-- The value on one line. -/
def compact (value : Json) : String := String.ofList (value.write .compact 0)

/-- The value with one item a line. -/
def pretty (value : Json) : String := String.ofList (value.write .pretty 0)

end WalletCore.Json
