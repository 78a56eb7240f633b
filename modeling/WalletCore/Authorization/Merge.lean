import WalletCore.Authorization.Basic

/-! # The union of two authorizations

The merge of two authorizations has the scopes and accounts of both; the accounts of the first
come first. Of a session property that both have, the second value holds.
-/
namespace WalletCore.Authorization

/-- Append the accounts that are not yet in a list. -/
def mergeAccounts (accounts more : List String) : List String :=
  more.foldl (fun all account => if account ∈ all then all else all ++ [account]) accounts

/-- Add the scopes and accounts of the second table to the first. -/
def mergeScopes (left right : Table (List String)) : Table (List String) :=
  right.entries.foldl
    (fun scopes entry => scopes.upsert entry.1 fun listed => mergeAccounts (listed.getD []) entry.2)
    left

/-- The union of two authorizations. -/
def merge (left right : Authorization) : Authorization where
  required := mergeScopes left.required right.required
  optional := mergeScopes left.optional right.optional
  multichain := left.multichain || right.multichain
  session := left.session.putAll right.session.entries

end WalletCore.Authorization
