import WalletCore.Json.Printer
import WalletCore.Json.Record

/-! # Versioned state

The persisted state of the extension maps the names of controllers to their states and is marked
with the version of its schema.
-/
namespace WalletCore.State

/-- The states of the controllers, by name. -/
abbrev Controllers : Type := Members Json

/-- The states of the controllers with the version of their schema. -/
structure Versioned where
  /-- The version of the schema. -/
  version : UInt64
  /-- The states of the controllers. -/
  controllers : Controllers
deriving DecidableEq

namespace Versioned

/-- The state without controllers. -/
def ofVersion (version : UInt64) : Versioned := ⟨version, .empty⟩

/-- Store the state of a controller. -/
def withController (state : Versioned) (name : String) (value : Json) : Versioned :=
  { state with controllers := state.controllers.put name value }

/-- A versioned state as JSON. -/
def toJson (state : Versioned) : Json :=
  .object [("meta", .object [("version", .number (.ofUInt64 state.version))]),
    ("data", .ofMembers state.controllers)]

/-- The written form of a versioned state, with one item a line. -/
def pretty (state : Versioned) : String := state.toJson.pretty

/-- The version in the header of a state. -/
def header : Record (Option UInt64) UInt64 where
  name := "Meta"
  fields := [⟨"version", true, Decoder.unsigned.map fun version _ => some version, Option.isSome⟩]
  blank := none
  finish := Record.require "version"

/-- The fields of a versioned state that were read. -/
structure Draft where
  /-- The version of the schema. -/
  version : Option UInt64 := none
  /-- The states of the controllers. -/
  controllers : Option Controllers := none

/-- The fields of a versioned state; the states of the controllers may be missing. -/
def record : Record Draft Versioned where
  name := "VersionedData"
  fields := [
    ⟨"meta", true, header.decoder.map fun version draft => { draft with version := some version },
      fun draft => draft.version.isSome⟩,
    ⟨"data", false,
      Decoder.members.map fun controllers draft => { draft with controllers := some controllers },
      fun draft => draft.controllers.isSome⟩]
  blank := {}
  finish draft := do
    .ok ⟨← Record.require "meta" draft.version, draft.controllers.getD .empty⟩

/-- The decoder of versioned states. -/
def decoder : Decoder Versioned := record.decoder

/-- Read a versioned state. -/
def ofText (text : String) : Except DecodeError Versioned := decoder.ofText text

end Versioned

end WalletCore.State
