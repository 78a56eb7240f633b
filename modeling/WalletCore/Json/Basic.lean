import WalletCore.Json.Number
import WalletCore.Members

/-! # JSON values

An object holds its members in order. Every value that is read has distinct names in each of its
objects: a name that is repeated keeps its first place and its last value.
-/
namespace WalletCore

/-- A JSON value. -/
inductive Json where
  /-- The null value. -/
  | null
  /-- A truth value. -/
  | bool (value : Bool)
  /-- A number. -/
  | number (value : Number)
  /-- A string. -/
  | string (value : String)
  /-- An array. -/
  | array (items : List Json)
  /-- An object, its members in order. -/
  | object (members : List (String × Json))
deriving Inhabited

namespace Json

mutual

/-- Equality of values is decided along the first of them. -/
def decideEq (left right : Json) : Decidable (left = right) :=
  match left with
  | .null =>
    match right with
    | .null => isTrue rfl
    | .bool _ | .number _ | .string _ | .array _ | .object _ => isFalse nofun
  | .bool first =>
    match right with
    | .bool second => decidable_of_iff (first = second) (by simp)
    | .null | .number _ | .string _ | .array _ | .object _ => isFalse nofun
  | .number first =>
    match right with
    | .number second => decidable_of_iff (first = second) (by simp)
    | .null | .bool _ | .string _ | .array _ | .object _ => isFalse nofun
  | .string first =>
    match right with
    | .string second => decidable_of_iff (first = second) (by simp)
    | .null | .bool _ | .number _ | .array _ | .object _ => isFalse nofun
  | .array first =>
    match right with
    | .array second =>
      match decideEqItems first second with
      | isTrue same => isTrue (by rw [same])
      | isFalse different => isFalse (by simpa using different)
    | .null | .bool _ | .number _ | .string _ | .object _ => isFalse nofun
  | .object first =>
    match right with
    | .object second =>
      match decideEqMembers first second with
      | isTrue same => isTrue (by rw [same])
      | isFalse different => isFalse (by simpa using different)
    | .null | .bool _ | .number _ | .string _ | .array _ => isFalse nofun

/-- Equality of the items of two arrays. -/
def decideEqItems (left right : List Json) : Decidable (left = right) :=
  match left with
  | [] =>
    match right with
    | [] => isTrue rfl
    | _ :: _ => isFalse nofun
  | first :: others =>
    match right with
    | [] => isFalse nofun
    | second :: rest =>
      match decideEq first second, decideEqItems others rest with
      | isTrue head, isTrue tail => isTrue (by rw [head, tail])
      | isFalse different, _ => isFalse (by simp [different])
      | _, isFalse different => isFalse (by simp [different])

/-- Equality of the members of two objects, order included. -/
def decideEqMembers (left right : List (String × Json)) : Decidable (left = right) :=
  match left with
  | [] =>
    match right with
    | [] => isTrue rfl
    | _ :: _ => isFalse nofun
  | (name, first) :: others =>
    match right with
    | [] => isFalse nofun
    | (other, second) :: rest =>
      if same : name = other then
        match decideEq first second, decideEqMembers others rest with
        | isTrue head, isTrue tail => isTrue (by rw [same, head, tail])
        | isFalse different, _ => isFalse (by simp [different])
        | _, isFalse different => isFalse (by simp [different])
      else isFalse (by simp [same])

end

instance : DecidableEq Json := decideEq

/-- The kind of a value, as reports name it. -/
def kind : Json → String
  | .null => "null"
  | .bool _ => "boolean"
  | .number _ => "number"
  | .string _ => "string"
  | .array _ => "array"
  | .object _ => "object"

/-- The kind of a value that may be missing. -/
def kindOrUndefined (value : Option Json) : String := value.elim "undefined" kind

/-- The text of a string. -/
def asString? : Json → Option String
  | .string value => some value
  | _ => none

/-- The items of an array. -/
def asArray? : Json → Option (List Json)
  | .array items => some items
  | _ => none

/-- The members of an object. -/
def asObject? : Json → Option (List (String × Json))
  | .object members => some members
  | _ => none

/-- The value of a member of an object. A value of another kind has no members. -/
def get? (value : Json) (name : String) : Option Json :=
  value.asObject?.bind (·.lookup name)

/-- The object with the given members. -/
def ofMembers (members : Members Json) : Json := .object members.entries

/-- The array of strings. -/
def ofStrings (items : List String) : Json := .array (items.map .string)

end Json

end WalletCore
