import WalletCore.Json.Decoder

/-! # Records

A record is decoded from an object, by the names of its fields, or from an array, by their order.
The fields that were read so far form a draft. From an object unknown members are passed over, a
field read from text may not repeat, and a field that stays empty is reported after all members
were read. From an array the fields at the end may be absent when they have a default.
-/
namespace WalletCore

open Json

/-- A field of a record with drafts of type `σ`. -/
structure Field (σ : Type) where
  /-- The name of the field. -/
  name : String
  /-- Whether the record is refused without it. -/
  required : Bool
  /-- Decodes the field into a change of the draft. -/
  decoder : Decoder (σ → σ)
  /-- Whether a draft has the field. -/
  filled : σ → Bool

/-- How a record with drafts of type `σ` is decoded. -/
structure Record (σ α : Type) where
  /-- The name of the record, as errors give it. -/
  name : String
  /-- The fields, in order. -/
  fields : List (Field σ)
  /-- The draft without fields. -/
  blank : σ
  /-- The record of a draft. -/
  finish : σ → Except DecodeError α

namespace Record

variable {σ α : Type}

/-- A field that a draft must have. -/
def require (name : String) (value : Option α) : Except DecodeError α :=
  value.elim (.error (.missingField name)) .ok

/-- The field with a name. -/
def field? (record : Record σ α) (name : String) : Option (Field σ) :=
  record.fields.find? fun field => field.name = name

/-- The draft after the members of an object. -/
def fillByName (record : Record σ α) (draft : σ) :
    List (String × Json) → Except DecodeError σ
  | [] => .ok draft
  | (name, value) :: members =>
    match record.field? name with
    | none => record.fillByName draft members
    | some field => do record.fillByName ((← field.decoder.ofJson value) draft) members

/-- The error for an array that ends before a required field, of which `taken` fields come
first. -/
def tooShort (record : Record σ α) (taken : Nat) : DecodeError :=
  .tooFewItems taken record.name record.fields.length

/-- The draft after the items of an array, and the items that no field takes. -/
def fillByOrder (record : Record σ α) :
    Nat → List (Field σ) → σ → List Json → Except DecodeError (σ × List Json)
  | _, [], draft, items => .ok (draft, items)
  | taken, field :: fields, draft, [] =>
    if field.required then .error (record.tooShort taken)
    else record.fillByOrder (taken + 1) fields draft []
  | taken, field :: fields, draft, item :: items => do
    record.fillByOrder (taken + 1) fields ((← field.decoder.ofJson item) draft) items

/-- Decode a record from a JSON value. Of a repeated member the last value counts. -/
def ofJson (record : Record σ α) : Json → Except DecodeError α
  | .object members => do
    record.finish (← record.fillByName record.blank (Members.ofList members).entries)
  | .array items => do
    let (draft, left) ← record.fillByOrder 0 record.fields record.blank items
    let value ← record.finish draft
    if left.isEmpty then .ok value else .error (.tooManyItems items.length)
  | other => .error (Decoder.wrongKind (.record record.name) other)

/-- The draft after the members of an object that is read from text, and the text after its
closing bracket. -/
def readByName (record : Record σ α) (allowance : Allowance) :
    Nat → Bool → σ → Reader σ
  | 0, _, _, _ => .error (.endOfText .object)
  | length + 1, first, draft, text => do
    match ← nextMember first text with
    | none => .ok (draft, ← closeObject text)
    | some text =>
      let (name, text) ← readString allowance.length text
      match record.field? name with
      | none =>
        let text ← skipValue allowance.length (← readColon text)
        record.readByName allowance length false draft text
      | some field =>
        if field.filled draft then .error (.duplicateField name)
        else
          let (change, text) ← field.decoder.read allowance (← readColon text)
          record.readByName allowance length false (change draft) text

/-- The draft after the items of an array that is read from text. Its end is not read. -/
def readByOrder (record : Record σ α) (allowance : Allowance) :
    Nat → List (Field σ) → σ → Reader σ
  | _, [], draft, text => .ok (draft, text)
  | taken, field :: fields, draft, text => do
    match ← nextItem (taken == 0) text with
    | none =>
      if field.required then .error (record.tooShort taken)
      else record.readByOrder allowance (taken + 1) fields draft text
    | some text =>
      let (change, text) ← field.decoder.read allowance text
      record.readByOrder allowance (taken + 1) fields (change draft) text

/-- What is inside the brackets of an object. -/
def readObject (record : Record σ α) (allowance : Allowance) : Reader α := fun text => do
  let (draft, text) ← record.readByName allowance allowance.length true record.blank text
  .ok (← record.finish draft, text)

/-- What is inside the brackets of an array. -/
def readArray (record : Record σ α) (allowance : Allowance) : Reader α := fun text => do
  let (draft, text) ← record.readByOrder allowance 0 record.fields record.blank text
  let value ← record.finish draft
  .ok (value, ← closeArray text)

/-- Read a record at the front of a text. -/
def read (record : Record σ α) (allowance : Allowance) : Reader α := fun text =>
  match skipBlanks text with
  | '[' :: rest =>
    Decoder.readBracket '[' (fun _ => .expectedValue) record.readArray allowance ('[' :: rest)
  | text =>
    Decoder.readBracket '\x7b' (Decoder.wrongKindAt (.record record.name) allowance.length)
      record.readObject allowance text

/-- The decoder of a record. -/
def decoder (record : Record σ α) : Decoder α := ⟨record.ofJson, record.read⟩

end Record

end WalletCore
