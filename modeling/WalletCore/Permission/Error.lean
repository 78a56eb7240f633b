import WalletCore.Json.DecodeError

/-! # Errors of permissions

Each error is a cause with the values that it concerns. Errors about values that a dApp supplied
name the permission that was checked, so that they can be answered without further context.
-/
namespace WalletCore.Permission

/-- Why a chain id in hexadecimal is refused. -/
inductive ChainIdFault where
  /-- The marker in front of the digits is missing. -/
  | unmarked (text : String)
  /-- The digits are missing, start with a zero, are no digits or are too many. -/
  | malformed (text : String)
deriving DecidableEq

/-- Why a scope or an account is refused. -/
inductive ScopeFault where
  /-- The text is not of the required form. -/
  | malformed (text : String)
  /-- The account is listed under the key of another scope. -/
  | foreign (account key : String)
deriving DecidableEq

/-- Why a caveat is refused. -/
inductive CaveatFault where
  /-- The caveat has another type than the one that is validated. -/
  | wrongType (expected found : String)
  /-- The value cannot be decoded. -/
  | undecodable (type : String) (cause : DecodeError)
  /-- The value authorizes nothing. -/
  | empty (type : String)
  /-- A permission does not have exactly one caveat of its type. -/
  | notSingle (permission type : String)
  /-- Any other fault, in words. -/
  | described (text : String)
deriving DecidableEq

/-- An error of permissions and caveats. -/
inductive Error where
  /-- A value is not a non-empty array of strings. -/
  | invalidAccounts (permission : String)
  /-- An address is not one of the wallet's own. -/
  | unrecognizedAddress (permission address : String)
  /-- A value is not a non-empty array. -/
  | invalidChainIds (permission : String)
  /-- No network client is configured for a chain id. -/
  | unrecognizedChainId (permission chainId : String)
  /-- A chain id is malformed. -/
  | invalidChainId (fault : ChainIdFault)
  /-- A scope or an account is malformed or misplaced. -/
  | invalidScope (fault : ScopeFault)
  /-- A caveat has the wrong type or value. -/
  | invalidCaveat (fault : CaveatFault)
  /-- Two caveat specifications have one type name. -/
  | duplicateCaveatSpecification (type : String)
  /-- Text is not JSON of the right shape. -/
  | serialization (cause : DecodeError)
deriving DecidableEq

/-- The wording of a fault of a chain id. -/
def ChainIdFault.message : ChainIdFault → String
  | .unmarked text => "expected 0x prefix: " ++ text
  | .malformed text => text

/-- The wording of a fault of a scope. -/
def ScopeFault.message : ScopeFault → String
  | .malformed text => text
  | .foreign account key => "account " ++ account ++ " does not belong to scope " ++ key

/-- The wording of a fault of a caveat. -/
def CaveatFault.message : CaveatFault → String
  | .wrongType expected found => "expected caveat of type " ++ expected ++ ", got " ++ found
  | .undecodable type cause => type ++ " value is malformed: " ++ cause.message
  | .empty type => type ++ " value must contain at least one scope"
  | .notSingle permission type => permission ++ " requires exactly one " ++ type ++ " caveat"
  | .described text => text

namespace Error

/-- The wording of an error. -/
def message : Error → String
  | .invalidAccounts permission =>
    permission ++ " error: Expected non-empty array of Ethereum addresses."
  | .unrecognizedAddress permission address =>
    permission ++ " error: Received unrecognized address: \"" ++ address ++ "\"."
  | .invalidChainIds permission =>
    permission ++ " error: Expected non-empty array of chainIds."
  | .unrecognizedChainId permission chainId =>
    permission ++ " error: Received unrecognized chainId: \"" ++ chainId ++
      "\". Please try adding the network first via wallet_addEthereumChain."
  | .invalidChainId fault => "Invalid chain ID: " ++ fault.message
  | .invalidScope fault => "Invalid scope: " ++ fault.message
  | .invalidCaveat fault => "Invalid caveat: " ++ fault.message
  | .duplicateCaveatSpecification type => "Duplicate caveat specification: " ++ type
  | .serialization cause => "Serialization error: " ++ cause.message

/-- Whether the error comes from checking a value that a caller supplied. -/
def isValidation : Error → Bool
  | .duplicateCaveatSpecification _ | .serialization _ => false
  | _ => true

end Error

end WalletCore.Permission
