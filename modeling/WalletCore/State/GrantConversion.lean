import WalletCore.Authorization.Edit
import WalletCore.Authorization.Format
import WalletCore.Authorization.Merge
import WalletCore.Permission.Name
import WalletCore.State.Migration

/-! # Conversion of former permissions

The migration to version 147 replaces the former permissions of each subject, the one for accounts
and the one for chains, by one permission that carries an authorization. A subject without chains
is authorized on the chain of the selected network, and an authorization that it has already is
kept within the new one. Each subject is converted on its own; one that is malformed is reported
and left as it was.
-/
namespace WalletCore.State.GrantConversion

open Permission (accountsName chainsName authorizationName)

/-- The controller of the permissions. -/
def permissionController : String := "PermissionController"

/-- The controller of the networks. -/
def networkController : String := "NetworkController"

/-- The member of the controller that must be an object. -/
def objectMember (controller name : String) (members : List (String × Json)) :
    Except Finding (List (String × Json)) :=
  match members.lookup name with
  | some (.object found) => .ok found
  | other => .error (.invalidState (controller ++ "." ++ name) (Json.kindOrUndefined other))

/-- Whether a subject has the former permission for accounts. -/
def hasAccounts (subject : Json) : Bool :=
  ((subject.get? "permissions").bind (·.get? accountsName)).isSome

/-- Whether an endpoint of a network belongs to a client. -/
def servesClient (client : String) (endpoint : Json) : Bool :=
  (endpoint.get? "networkClientId").bind Json.asString? = some client

/-- Whether a network has an endpoint of a client. -/
def hasClient (client : String) (network : Json) : Bool :=
  ((network.get? "rpcEndpoints").bind Json.asArray?).any (·.any (servesClient client))

/-- The chain id of the network of the selected client. -/
def selectedChain (controllers : Controllers) : Except Finding String :=
  match controllers.get? networkController with
  | some (.object network) =>
    match network.lookup "selectedNetworkClientId" with
    | some (.string client) => do
      let networks ← objectMember networkController "networkConfigurationsByChainId" network
      match networks.find? fun entry => hasClient client entry.2 with
      | some (chainId, _) => .ok chainId
      | none => .error (.unknownNetwork client)
    | other =>
      .error (.invalidState (networkController ++ ".selectedNetworkClientId")
        (Json.kindOrUndefined other))
  | other => .error (.invalidState networkController (Json.kindOrUndefined other))

/-- The value of the first caveat of a type that a permission has. -/
def caveatValue? (permission : Json) (type : String) : Option Json := do
  let caveats ← (← permission.get? "caveats").asArray?
  let caveat ← caveats.find? fun caveat => (caveat.get? "type").bind Json.asString? = some type
  caveat.get? "value"

/-- The strings that the first caveat of a type lists. -/
def caveatStrings? (permission : Json) (type : String) : Option (List String) := do
  (← (← caveatValue? permission type).asArray?).mapM Json.asString?

/-- The addresses that the former permission for accounts lists, at least one. -/
def addresses? (permission : Json) : Option (List String) :=
  (caveatStrings? permission Permission.accountsCaveat).filter (!·.isEmpty)

/-- The chain ids of a subject: those that the former permission for chains lists, or the selected
one if there are none. -/
def chainIds? (selected : String) (permission : Option Json) : Option (List String) :=
  match permission with
  | none => some [selected]
  | some permission =>
    (caveatStrings? permission Permission.chainsCaveat).map fun chainIds =>
      if chainIds.isEmpty then [selected] else chainIds

/-- The authorization that a permission carries already. -/
def authorization? (permission : Json) : Option Authorization := do
  (Authorization.decoder.ofJson (← caveatValue? permission Permission.scopesCaveat)).toOption

/-- The permission that carries an authorization, with the id and the date of the former
permission for accounts. -/
def newPermission (origin : String) (former : Json) (value : Authorization) : Json :=
  .object <|
    [("parentCapability", .string authorizationName), ("invoker", .string origin),
      ("caveats", .array [.object [("type", .string Permission.scopesCaveat),
        ("value", value.toJson)]])] ++
    ((former.get? "id").elim [] fun id => [("id", id)]) ++
    ((former.get? "date").elim [] fun date => [("date", date)])

/-- A value, or a finding about a part of the subject of an origin. -/
def partOf {α : Type} (part origin : String) (value : Option α) : Except Finding α :=
  value.elim (.error (.invalidPart part origin)) .ok

/-- The permissions of a subject after the conversion; nothing if it does not have the former
permission for accounts. -/
def convertPermissions (selected origin : String) (permissions : List (String × Json)) :
    Except Finding (Option (List (String × Json))) :=
  match permissions.lookup accountsName with
  | none => .ok none
  | some former => do
    let addresses ← partOf "eth_accounts caveat" origin (addresses? former)
    let chainIds ← partOf "permitted-chains caveat" origin
      (chainIds? selected (permissions.lookup chainsName))
    let built ← (Authorization.build addresses chainIds).mapError (.inconvertible origin)
    let value ← match permissions.lookup authorizationName with
      | none => .ok built
      | some current => do
        let present ← partOf "endowment:caip25 caveat" origin (authorization? current)
        .ok (present.merge built)
    let kept := Entries.swapRemove chainsName (Entries.swapRemove accountsName permissions)
    .ok (some (Entries.put authorizationName (newPermission origin former value) kept))

/-- A subject after the conversion; nothing if there is nothing to convert. -/
def convertSubject (selected origin : String) (subject : Json) :
    Except Finding (Option Json) :=
  match subject with
  | .object members =>
    match members.lookup "permissions" with
    | some (.object permissions) => do
      let converted ← convertPermissions selected origin permissions
      .ok (converted.map fun permissions =>
        .object (Entries.put "permissions" (.object permissions) members))
    | _ => .error (.invalidPart "permissions" origin)
  | _ => .error (.invalidPart "permissions" origin)

/-- A subject after the migration: converted, or as it was. -/
def migratedSubject (selected origin : String) (subject : Json) : Json :=
  match convertSubject selected origin subject with
  | .ok (some converted) => converted
  | _ => subject

/-- What is reported about a subject. -/
def subjectFinding? (selected origin : String) (subject : Json) : Option Finding :=
  match convertSubject selected origin subject with
  | .ok _ => none
  | .error finding => some finding

/-- Convert the subjects within the members of the controller. -/
def convertIn (selected : String) (controller subjects : List (String × Json)) :
    List (String × Json) :=
  Entries.put "subjects"
    (.object (subjects.map fun entry => (entry.1, migratedSubject selected entry.1 entry.2)))
    controller

/-- Convert the subjects of the controller of the permissions, if there is one and any subject has
the former permission for accounts. -/
def transform (controllers : Controllers) : Controllers × List Finding :=
  match controllers.get? permissionController with
  | none => (controllers, [])
  | some (.object controller) =>
    match objectMember permissionController "subjects" controller with
    | .error finding => (controllers, [finding])
    | .ok subjects =>
      if subjects.any fun entry => hasAccounts entry.2 then
        match selectedChain controllers with
        | .error finding => (controllers, [finding])
        | .ok selected =>
          (controllers.put permissionController (.object (convertIn selected controller subjects)),
            subjects.filterMap fun entry => subjectFinding? selected entry.1 entry.2)
      else (controllers, [])
  | some other => (controllers, [.invalidState permissionController other.kind])

/-- The migration to version 147. -/
def migration : Migration :=
  .ofFindings 147 "Convert eth_accounts and permitted-chains to endowment:caip25" transform

end WalletCore.State.GrantConversion
