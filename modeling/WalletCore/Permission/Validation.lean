import WalletCore.Json.Printer
import WalletCore.Json.Record
import WalletCore.Permission.Error
import WalletCore.Permission.Name

/-! # Checks of requested accounts and chains

Both checks take the JSON value as a dApp sent it, and ask the wallet in some monad: one for the
list of its accounts, the other for the network client of one chain id after another. Nothing is
asked about a value of the wrong shape, and the look-ups end at the first one that fails.
-/
namespace WalletCore.Permission

/-- An account that the wallet manages. -/
structure InternalAccount where
  /-- The id of the account. -/
  id : String
  /-- The address. -/
  address : String
deriving DecidableEq

namespace InternalAccount

/-- The decoder of accounts. -/
def decoder : Decoder InternalAccount :=
  Record.decoder {
    name := "InternalAccount"
    fields := [
      ⟨"id", true, Decoder.string.map fun id draft => (some id, draft.2),
        fun draft => draft.1.isSome⟩,
      ⟨"address", true, Decoder.string.map fun address draft => (draft.1, some address),
        fun draft => draft.2.isSome⟩]
    blank := ((none, none) : Option String × Option String)
    finish := fun draft => do
      .ok ⟨← Record.require "id" draft.1, ← Record.require "address" draft.2⟩ }

/-- An account as JSON. -/
def toJson (account : InternalAccount) : Json :=
  .object [("id", .string account.id), ("address", .string account.address)]

end InternalAccount

/-- What the checks may ask the wallet. -/
structure WalletLookups where
  /-- The accounts that the wallet manages. -/
  accounts : List InternalAccount
  /-- The network client of a chain id, or why there is none. -/
  networkClient : String → Except String String

/-- Whether two addresses are the same but for the case of their letters. -/
def sameAddress (left right : String) : Bool := left.toLower = right.toLower

/-- The strings of a non-empty array of strings. -/
def nonEmptyStrings? (value : Json) : Option (List String) :=
  match value with
  | .array (item :: items) => (item :: items).mapM Json.asString?
  | _ => none

/-- Check that all addresses are those of accounts. -/
def checkAddresses (internal : List InternalAccount) (addresses : List String) :
    Except Error Unit :=
  match addresses.find? fun address => !internal.any (sameAddress ·.address address) with
  | none => .ok ()
  | some address => .error (.unrecognizedAddress accountsName address)

variable {m : Type → Type} [Monad m]

/-- Check that a value is a non-empty array of addresses of the wallet. -/
def checkAccounts (listAccounts : m (List InternalAccount)) (value : Json) :
    m (Except Error Unit) :=
  match nonEmptyStrings? value with
  | none => pure (.error (.invalidAccounts accountsName))
  | some addresses => do
    let internal ← listAccounts
    pure (checkAddresses internal addresses)

/-- The chain id that an item of a value stands for: a string itself, and the JSON text of any
other item. -/
def chainIdOfItem : Json → String
  | .string text => text
  | item => item.compact

/-- Look up chain ids in order until one is unknown. -/
def lookUpAll (networkClient : String → m (Except String String)) :
    List String → m (Except Error Unit)
  | [] => pure (.ok ())
  | chainId :: chainIds => do
    match ← networkClient chainId with
    | .error _ => pure (.error (.unrecognizedChainId chainsName chainId))
    | .ok _ => lookUpAll networkClient chainIds

/-- Check that a value is a non-empty array of chain ids that have a network client. -/
def checkNetworks (networkClient : String → m (Except String String)) (value : Json) :
    m (Except Error Unit) :=
  match value with
  | .array (item :: items) => lookUpAll networkClient ((item :: items).map chainIdOfItem)
  | _ => pure (.error (.invalidChainIds chainsName))

/-- A wallet that remembers which chain ids were looked up. Its answers may depend on those that
were looked up before. -/
def recorded (answer : List String → String → Except String String) (chainId : String) :
    StateM (List String) (Except String String) := do
  let before ← get
  set (before ++ [chainId])
  pure (answer before chainId)

end WalletCore.Permission
