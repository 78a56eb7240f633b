import WalletCore.Chain.Account
import WalletCore.Table

/-! # Authorizations

An authorization grants an origin a set of scopes and lists under each of them the accounts that
the origin may see there. A dApp asks for some scopes as required and for others as optional. The
views of this module give what an authorization says about Ethereum: its accounts, each once, and
its chains in ascending order.
-/
namespace WalletCore

/-- The scopes and accounts that an origin is granted. -/
structure Authorization where
  /-- The accounts under each scope that was required. -/
  required : Table (List String)
  /-- The accounts under each scope that was optional. -/
  optional : Table (List String)
  /-- Whether the grant came through the interface for many chains. -/
  multichain : Bool
  /-- Properties of the session, passed on as they are. -/
  session : Members Json
deriving DecidableEq

/-- The first of each group of values with one key, in order. -/
def firstsBy {α κ : Type} [DecidableEq κ] (key : α → κ) : List α → List α
  | [] => []
  | value :: values => value :: (firstsBy key values).filter fun other => key other ≠ key value

namespace Authorization

/-- The authorization of nothing. -/
def empty : Authorization := ⟨.empty, .empty, false, .empty⟩

/-- The required scopes and then the optional ones, with their accounts. -/
def scopes (value : Authorization) : List (String × List String) :=
  value.required.entries ++ value.optional.entries

/-- Whether there is no scope at all. -/
def isEmpty (value : Authorization) : Bool := value.required.isEmpty && value.optional.isEmpty

/-- The addresses listed under scopes of Ethereum, with repetitions. -/
def ethereumAddresses (value : Authorization) : List String :=
  (value.scopes.filter fun scope => Chain.Scope.isEthereumKey scope.1).flatMap fun scope =>
    (scope.2.filterMap Chain.Account.parse?).map (·.address)

/-- The Ethereum addresses in order of their first listing. Addresses that differ only in the case
of their letters count as one. -/
def ethereumAccounts (value : Authorization) : List String :=
  firstsBy String.toLower value.ethereumAddresses

/-- Put a chain in its place among ascending chains, unless it is there. -/
def insertChain (chain : Chain.Id) : List Chain.Id → List Chain.Id
  | [] => [chain]
  | found :: chains =>
    if chain < found then chain :: found :: chains
    else if chain = found then found :: chains
    else found :: insertChain chain chains

/-- The Ethereum chains that have a scope, ascending. -/
def chains (value : Authorization) : List Chain.Id :=
  (value.scopes.filterMap fun scope => Chain.Scope.chainOfKey? scope.1).foldr insertChain []

/-- The Ethereum chains that have a scope, in hexadecimal and ascending by number. -/
def chainIds (value : Authorization) : List String := value.chains.map Chain.Id.toHex

end Authorization

end WalletCore
