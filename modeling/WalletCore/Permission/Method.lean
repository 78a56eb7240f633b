/-! # Methods that need no permission

The methods listed here are answered without a look at permissions; names are compared as they
are. Some of them sign with an Ethereum account of the user.
-/
namespace WalletCore.Permission.Method

/-- The methods that are answered without a permission, in ascending order. -/
def unrestricted : List String := [
  "eth_blockNumber", "eth_call", "eth_chainId", "eth_coinbase", "eth_decrypt", "eth_estimateGas",
  "eth_feeHistory", "eth_gasPrice", "eth_getBalance", "eth_getBlockByHash",
  "eth_getBlockByNumber", "eth_getBlockTransactionCountByHash",
  "eth_getBlockTransactionCountByNumber", "eth_getCode", "eth_getEncryptionPublicKey",
  "eth_getFilterChanges", "eth_getFilterLogs", "eth_getLogs", "eth_getProof", "eth_getStorageAt",
  "eth_getTransactionByBlockHashAndIndex", "eth_getTransactionByBlockNumberAndIndex",
  "eth_getTransactionByHash", "eth_getTransactionCount", "eth_getTransactionReceipt",
  "eth_getUncleByBlockHashAndIndex", "eth_getUncleByBlockNumberAndIndex",
  "eth_getUncleCountByBlockHash", "eth_getUncleCountByBlockNumber", "eth_getWork",
  "eth_hashrate", "eth_mining", "eth_newBlockFilter", "eth_newFilter",
  "eth_newPendingTransactionFilter", "eth_protocolVersion", "eth_requestAccounts",
  "eth_sendRawTransaction", "eth_sendTransaction", "eth_signTypedData", "eth_signTypedData_v1",
  "eth_signTypedData_v3", "eth_signTypedData_v4", "eth_submitHashrate", "eth_submitWork",
  "eth_subscribe", "eth_syncing", "eth_uninstallFilter", "eth_unsubscribe", "net_listening",
  "net_peerCount", "net_version", "personal_ecRecover", "personal_sign",
  "wallet_addEthereumChain", "wallet_getCallsStatus", "wallet_getCapabilities",
  "wallet_getPermissions", "wallet_registerOnboarding", "wallet_requestPermissions",
  "wallet_revokePermissions", "wallet_sendCalls", "wallet_switchEthereumChain",
  "wallet_watchAsset", "web3_clientVersion", "web3_sha3"]

/-- The unrestricted methods that sign for an Ethereum account, in ascending order. -/
def ethereumSigning : List String := [
  "eth_sendTransaction", "eth_signTypedData", "eth_signTypedData_v1", "eth_signTypedData_v3",
  "eth_signTypedData_v4", "personal_sign"]

/-- Whether a method is answered without a permission. -/
def isUnrestricted (method : String) : Bool := unrestricted.contains method

/-- Whether a method is unrestricted and signs for an Ethereum account. -/
def isEthereumSigning (method : String) : Bool := ethereumSigning.contains method

end WalletCore.Permission.Method
