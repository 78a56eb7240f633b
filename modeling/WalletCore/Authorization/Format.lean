import WalletCore.Authorization.Basic
import WalletCore.Json.Printer
import WalletCore.Json.Record

/-! # Authorizations as JSON

A scope is written with the list of its accounts. Session properties are written only if there are
any, and the accounts of a scope may be missing from what is read.
-/
namespace WalletCore.Authorization

/-- The accounts of a scope as JSON. -/
def scopeToJson (accounts : List String) : Json := .object [("accounts", .ofStrings accounts)]

/-- The scopes of a table as JSON. -/
def scopesToJson (scopes : Table (List String)) : Json :=
  .object (scopes.entries.map fun scope => (scope.1, scopeToJson scope.2))

/-- An authorization as JSON. -/
def toJson (value : Authorization) : Json :=
  .object <|
    [("requiredScopes", scopesToJson value.required),
      ("optionalScopes", scopesToJson value.optional),
      ("isMultichainOrigin", .bool value.multichain)] ++
    if value.session.isEmpty then [] else [("sessionProperties", .ofMembers value.session)]

/-- The accounts of a scope, none if they are missing. -/
def scopeRecord : Record (Option (List String)) (List String) where
  name := "ScopeObject"
  fields := [⟨"accounts", false, (Decoder.list .string).map fun accounts _ => some accounts,
    Option.isSome⟩]
  blank := none
  finish draft := .ok (draft.getD [])

/-- The scopes of a table. -/
def scopesDecoder : Decoder (Table (List String)) := .table scopeRecord.decoder

/-- The fields of an authorization that were read. -/
structure Draft where
  /-- The required scopes. -/
  required : Option (Table (List String)) := none
  /-- The optional scopes. -/
  optional : Option (Table (List String)) := none
  /-- Whether the grant came through the interface for many chains. -/
  multichain : Option Bool := none
  /-- The session properties. -/
  session : Option (Members Json) := none

/-- The fields of an authorization; only the session properties may be missing. -/
def record : Record Draft Authorization where
  name := "Caip25CaveatValue"
  fields := [
    ⟨"requiredScopes", true,
      scopesDecoder.map fun scopes draft => { draft with required := some scopes },
      fun draft => draft.required.isSome⟩,
    ⟨"optionalScopes", true,
      scopesDecoder.map fun scopes draft => { draft with optional := some scopes },
      fun draft => draft.optional.isSome⟩,
    ⟨"isMultichainOrigin", true,
      Decoder.bool.map fun multichain draft => { draft with multichain := some multichain },
      fun draft => draft.multichain.isSome⟩,
    ⟨"sessionProperties", false,
      Decoder.members.map fun session draft => { draft with session := some session },
      fun draft => draft.session.isSome⟩]
  blank := {}
  finish draft := do
    let required ← Record.require "requiredScopes" draft.required
    let optional ← Record.require "optionalScopes" draft.optional
    let multichain ← Record.require "isMultichainOrigin" draft.multichain
    .ok ⟨required, optional, multichain, draft.session.getD .empty⟩

/-- The decoder of authorizations. -/
def decoder : Decoder Authorization := record.decoder

end WalletCore.Authorization
