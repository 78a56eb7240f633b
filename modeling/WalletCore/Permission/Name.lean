/-! # Names of permissions and caveats
-/
namespace WalletCore.Permission

/-- The permission that carries an authorization. -/
def authorizationName : String := "endowment:caip25"

/-- The former permission to see accounts. -/
def accountsName : String := "eth_accounts"

/-- The former permission to use chains. -/
def chainsName : String := "endowment:permitted-chains"

/-- The type of the caveat whose value is an authorization. -/
def scopesCaveat : String := "authorizedScopes"

/-- The type of the former caveat that lists addresses. -/
def accountsCaveat : String := "restrictReturnedAccounts"

/-- The type of the former caveat that lists chain ids. -/
def chainsCaveat : String := "restrictNetworkSwitching"

end WalletCore.Permission
