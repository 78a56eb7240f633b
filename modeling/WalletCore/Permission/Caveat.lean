import WalletCore.Authorization.Format
import WalletCore.Authorization.Merge
import WalletCore.Permission.Validation

/-! # Caveats and permissions

A permission grants its invoker a capability and restricts it by caveats. The caveat of the
authorization permission holds an authorization; it is accepted when every account stands under
the scope that it belongs to and the wallet knows every address and chain.
-/
namespace WalletCore.Permission

/-- A restriction of a permission. -/
structure Caveat where
  /-- The name of the type. -/
  type : String
  /-- The value. -/
  value : Json
deriving DecidableEq

/-- A permission that an origin holds. -/
structure Grant where
  /-- The name of the permission. -/
  capability : String
  /-- The origin that holds it. -/
  invoker : String
  /-- The caveats. -/
  caveats : List Caveat
deriving DecidableEq

namespace Caveat

/-- The fields of a caveat; a draft holds the type and the value. -/
def record : Record (Option String × Option Json) Caveat where
  name := "Caveat"
  fields := [
    ⟨"type", true, Decoder.string.map fun type draft => (some type, draft.2),
      fun draft => draft.1.isSome⟩,
    ⟨"value", true, Decoder.any.map fun value draft => (draft.1, some value),
      fun draft => draft.2.isSome⟩]
  blank := (none, none)
  finish draft := do
    .ok ⟨← Record.require "type" draft.1, ← Record.require "value" draft.2⟩

/-- The decoder of caveats. -/
def decoder : Decoder Caveat := record.decoder

/-- A caveat as JSON. -/
def toJson (caveat : Caveat) : Json :=
  .object [("type", .string caveat.type), ("value", caveat.value)]

end Caveat

namespace Grant

/-- The fields of a permission that were read. -/
structure Draft where
  /-- The name of the permission. -/
  capability : Option String := none
  /-- The origin that holds it. -/
  invoker : Option String := none
  /-- The caveats. -/
  caveats : Option (List Caveat) := none

/-- The fields of a permission. -/
def record : Record Draft Grant where
  name := "Permission"
  fields := [
    ⟨"parentCapability", true,
      Decoder.string.map fun capability draft => { draft with capability := some capability },
      fun draft => draft.capability.isSome⟩,
    ⟨"invoker", true,
      Decoder.string.map fun invoker draft => { draft with invoker := some invoker },
      fun draft => draft.invoker.isSome⟩,
    ⟨"caveats", true,
      (Decoder.list Caveat.decoder).map fun caveats draft => { draft with caveats := some caveats },
      fun draft => draft.caveats.isSome⟩]
  blank := {}
  finish draft := do
    let capability ← Record.require "parentCapability" draft.capability
    let invoker ← Record.require "invoker" draft.invoker
    .ok ⟨capability, invoker, ← Record.require "caveats" draft.caveats⟩

/-- The decoder of permissions. -/
def decoder : Decoder Grant := record.decoder

/-- A permission as JSON. -/
def toJson (grant : Grant) : Json :=
  .object [("parentCapability", .string grant.capability), ("invoker", .string grant.invoker),
    ("caveats", .array (grant.caveats.map Caveat.toJson))]

end Grant

/-- The authorization in the value of a caveat. -/
def authorizationOfValue (value : Json) : Except Error Authorization :=
  (Authorization.decoder.ofJson value).mapError fun cause =>
    .invalidCaveat (.undecodable scopesCaveat cause)

/-- Check that an account is well formed and stands under the scope that it belongs to. -/
def checkPlacement (key : String) (scope : Chain.Scope) (account : String) :
    Except Error Unit := do
  if (← Chain.Account.parse account).scope = scope then .ok ()
  else .error (.invalidScope (.foreign account key))

/-- Check that the key of a scope is well formed and that its accounts belong to it. -/
def checkScope (entry : String × List String) : Except Error Unit := do
  let scope ← Chain.Scope.parse entry.1
  entry.2.forM (checkPlacement entry.1 scope)

/-- Check an authorization against what the wallet knows: its scopes, then its Ethereum accounts,
then its Ethereum chains. -/
def checkAuthorization (lookups : WalletLookups) (value : Authorization) : Except Error Unit := do
  if value.isEmpty then .error (.invalidCaveat (.empty scopesCaveat))
  value.scopes.forM checkScope
  let accounts := value.ethereumAccounts
  if ¬ accounts.isEmpty then
    Id.run (checkAccounts (pure lookups.accounts) (.ofStrings accounts))
  let chainIds := value.chainIds
  if ¬ chainIds.isEmpty then
    Id.run (checkNetworks (pure <| lookups.networkClient ·) (.ofStrings chainIds))

/-- Check a caveat that should hold an authorization. -/
def checkScopesCaveat (lookups : WalletLookups) (caveat : Caveat) : Except Error Unit := do
  if caveat.type ≠ scopesCaveat then
    .error (.invalidCaveat (.wrongType scopesCaveat caveat.type))
  checkAuthorization lookups (← authorizationOfValue caveat.value)

/-- Merge the values of two caveats that hold authorizations. -/
def mergeScopesValues (left right : Json) : Except Error Json := do
  let first ← authorizationOfValue left
  let second ← authorizationOfValue right
  .ok (first.merge second).toJson

/-- Build the permission that carries an authorization. It takes exactly one caveat. -/
def buildAuthorizationGrant (invoker : String) (caveats : List Caveat) : Except Error Grant :=
  match caveats with
  | [caveat] =>
    if caveat.type = scopesCaveat then do
      let _ ← authorizationOfValue caveat.value
      .ok ⟨authorizationName, invoker, caveats⟩
    else .error (.invalidCaveat (.notSingle authorizationName scopesCaveat))
  | _ => .error (.invalidCaveat (.notSingle authorizationName scopesCaveat))

end WalletCore.Permission
