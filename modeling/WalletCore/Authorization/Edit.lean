import WalletCore.Authorization.Basic

/-! # Changing the accounts and chains of an authorization

A change of the accounts lists them under every scope of Ethereum that is there. A change of the
chains decides which optional scopes of Ethereum chains there are; required scopes stay, and the
accounts that were authorized anywhere are then listed under all scopes of Ethereum.
-/
namespace WalletCore.Authorization

/-- The entry for an address under a scope. -/
def accountUnder (key address : String) : String := key ++ ":" ++ address

/-- List the addresses under every scope of Ethereum. -/
def listUnder (addresses : List String) (scopes : Table (List String)) : Table (List String) :=
  scopes.mapEntries fun key listed =>
    if Chain.Scope.isEthereumKey key then addresses.map (accountUnder key) else listed

/-- Replace the accounts under every scope of Ethereum. -/
def withAccounts (value : Authorization) (addresses : List String) : Authorization :=
  { value with
    required := listUnder addresses value.required
    optional := listUnder addresses value.optional }

/-- The key of the scope of a chain. -/
def chainKey (chain : Chain.Id) : String := (Chain.Scope.eip155 chain).toText

/-- Add an optional scope without accounts for a chain, unless the chain has a scope. -/
def addChain (value : Authorization) (chain : Chain.Id) : Authorization :=
  if value.required.contains (chainKey chain) then value
  else { value with optional := value.optional.upsert (chainKey chain) (·.getD []) }

/-- Remove the optional scopes of the chains that are not in a list. -/
def keepChains (value : Authorization) (chains : List Chain.Id) : Authorization :=
  { value with
    optional := value.optional.filterKeys fun key =>
      (Chain.Scope.chainOfKey? key).all (chains.contains ·) }

/-- Let the optional scopes of Ethereum chains be those of the given ids. -/
def withChains (value : Authorization) (ids : List String) :
    Except Permission.Error Authorization := do
  let chains ← ids.mapM Chain.Id.ofHex
  .ok ((chains.foldl addChain (value.keepChains chains)).withAccounts value.ethereumAccounts)

/-- The authorization without accounts for Ethereum on no particular chain. -/
def walletOnly : Authorization :=
  { empty with optional := Table.empty.insert Chain.Scope.walletEip155.toText [] }

/-- The authorization of accounts on chains, as it is granted to a request for accounts. -/
def build (addresses ids : List String) : Except Permission.Error Authorization := do
  .ok ((← walletOnly.withChains ids).withAccounts addresses)

end WalletCore.Authorization
