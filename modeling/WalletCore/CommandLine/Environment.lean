import WalletCore.Permission.Caveat

/-! # The environment of a wallet

Caveats can be checked without a wallet against a file that lists the accounts of one and the
network clients of its chains.
-/
namespace WalletCore.CommandLine

open Permission (InternalAccount WalletLookups)

/-- The accounts and networks of a wallet. -/
structure Environment where
  /-- The accounts. -/
  accounts : List InternalAccount
  /-- The network client of each chain id. -/
  networkClients : Table String
deriving DecidableEq

namespace Environment

/-- No accounts and no networks. -/
def empty : Environment := ⟨[], .empty⟩

/-- The fields of an environment that were read. -/
structure Draft where
  /-- The accounts. -/
  accounts : Option (List InternalAccount) := none
  /-- The network client of each chain id. -/
  networkClients : Option (Table String) := none

/-- The fields of an environment, each of which may be missing. -/
def record : Record Draft Environment where
  name := "EnvironmentConfig"
  fields := [
    ⟨"accounts", false,
      (Decoder.list InternalAccount.decoder).map fun accounts draft =>
        { draft with accounts := some accounts },
      fun draft => draft.accounts.isSome⟩,
    ⟨"networkClientIds", false,
      (Decoder.table .string).map fun clients draft =>
        { draft with networkClients := some clients },
      fun draft => draft.networkClients.isSome⟩]
  blank := {}
  finish draft := .ok ⟨draft.accounts.getD [], draft.networkClients.getD .empty⟩

/-- The decoder of environments. -/
def decoder : Decoder Environment := record.decoder

/-- An environment as JSON. -/
def toJson (environment : Environment) : Json :=
  .object [("accounts", .array (environment.accounts.map InternalAccount.toJson)),
    ("networkClientIds",
      .object (environment.networkClients.entries.map fun client => (client.1, .string client.2)))]

/-- The network client of a chain id. -/
def networkClient (environment : Environment) (chainId : String) : Except String String :=
  (environment.networkClients.get? chainId).elim
    (.error ("No network client for chain " ++ chainId)) .ok

/-- What checks may ask a wallet of this environment. -/
def lookups (environment : Environment) : WalletLookups :=
  ⟨environment.accounts, environment.networkClient⟩

end Environment

end WalletCore.CommandLine
