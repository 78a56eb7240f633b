import WalletCore.Permission.Method
import WalletCore.Permission.Name
import WalletCore.Rpc.Error

/-! # Admission of methods

A method is served if it needs no permission or if it was registered under one. A method that
needs no permission stays that way whatever is registered.
-/
namespace WalletCore.Rpc

/-- How a method is admitted. -/
inductive Access where
  /-- Without a permission. -/
  | unrestricted
  /-- Under a permission. -/
  | restricted (permission : String)
deriving DecidableEq

/-- The methods that are registered under permissions. -/
structure Gate where
  /-- The permission of each registered method. -/
  permissions : Table String
deriving DecidableEq

namespace Gate

/-- The gate without registrations. -/
def empty : Gate := ⟨.empty⟩

/-- Register a method under a permission, which replaces an earlier one. -/
def register (gate : Gate) (method permission : String) : Gate :=
  ⟨gate.permissions.insert method permission⟩

/-- The method by which an origin asks for the accounts that it may see. -/
def accountsMethod : String := "eth_accounts"

/-- The gate at which the accounts of an origin need an authorization. -/
def standard : Gate := empty.register accountsMethod Permission.authorizationName

/-- How a method is admitted, if it is known. -/
def classify? (gate : Gate) (method : String) : Option Access :=
  if Permission.Method.isUnrestricted method then some .unrestricted
  else (gate.permissions.get? method).map .restricted

/-- How a method is admitted, or the error for an unknown one. -/
def check (gate : Gate) (method : String) : Except Error Access :=
  (gate.classify? method).elim (.error (.methodNotFound method)) .ok

end Gate

end WalletCore.Rpc
