import WalletCore.Rpc.Dispatcher

/-! # A wallet that follows a script

The scripted wallet answers queries from values that are set beforehand: the accounts of each
origin, failures, and the authorization that the user would approve. Queries of chosen kinds park.
A query is answered from the values of the moment at which it goes on.
-/
namespace WalletCore.Rpc

/-- The kinds of queries that can be made to park. -/
inductive QueryKind where
  /-- Queries for accounts. -/
  | accounts
  /-- Queries that wait for the unlocked wallet. -/
  | unlock
  /-- Queries for an approval. -/
  | approval
  /-- Queries for a grant. -/
  | grant
deriving DecidableEq

/-- The kind of a query; a request that is handled elsewhere has none. -/
def Query.kind? : Query → Option QueryKind
  | .accounts .. => some .accounts
  | .unlock _ => some .unlock
  | .approval _ => some .approval
  | .grant .. => some .grant
  | .forward _ => none

/-- What answers the requests that are handled elsewhere. -/
structure Downstream where
  /-- The outcome for each method. -/
  outcomes : Table (Except Error Json)
  /-- Whether other methods are answered with themselves. -/
  echoes : Bool

/-- Nothing is handled elsewhere. -/
def Downstream.nothing : Downstream := ⟨.empty, false⟩

/-- The outcome for a request. -/
def Downstream.outcome (downstream : Downstream) (request : Request) : Except Error Json :=
  match downstream.outcomes.get? request.method with
  | some outcome => outcome
  | none =>
    if downstream.echoes then
      .ok (.object [("method", .string request.method), ("params", request.params.getD .null)])
    else .error (.methodNotFound request.method)

/-- The values from which queries are answered. -/
structure ScriptedWallet where
  /-- The accounts of each origin. -/
  accounts : Table (List String) := .empty
  /-- Whether the wallet is locked. -/
  locked : Bool := false
  /-- The failures of the next queries for accounts, one for each query. -/
  accountErrors : List (Option Error) := []
  /-- Why the wallet cannot be unlocked. -/
  unlockError : Option Error := none
  /-- Why there is no approval. -/
  approvalError : Option Error := none
  /-- Why there is no grant. -/
  grantError : Option Error := none
  /-- The authorization that the user approves. -/
  approval : Authorization := .empty
  /-- The accounts that a grant gives, if not those of the authorization. -/
  grantAccounts : Option (List String) := none
  /-- The kinds of queries that park. -/
  blocked : List QueryKind := []

namespace ScriptedWallet

/-- The accounts that an origin sees. -/
def visible (wallet : ScriptedWallet) (origin : String) (ignoreLock : Bool) : List String :=
  if wallet.locked ∧ ¬ ignoreLock then [] else (wallet.accounts.get? origin).getD []

/-- Fail, or go on. -/
def failing {α : Type} (failure : Option Error) (wallet : ScriptedWallet)
    (success : α × ScriptedWallet) : Except Error α × ScriptedWallet :=
  failure.elim (.ok success.1, success.2) fun error => (.error error, wallet)

/-- Answer a query. -/
def answer (downstream : Downstream) (wallet : ScriptedWallet) :
    (query : Query) → Except Error query.Answer × ScriptedWallet
  | .accounts origin ignoreLock =>
    let left := { wallet with accountErrors := wallet.accountErrors.tail }
    failing wallet.accountErrors.head?.join left (left.visible origin ignoreLock, left)
  | .unlock _ => failing wallet.unlockError wallet ((), { wallet with locked := false })
  | .approval _ => failing wallet.approvalError wallet (wallet.approval, wallet)
  | .grant origin value =>
    let given := wallet.grantAccounts.getD value.ethereumAccounts
    failing wallet.grantError wallet
      ((), { wallet with accounts := wallet.accounts.insert origin given })
  | .forward request => (downstream.outcome request, wallet)

/-- The host that answers from a scripted wallet. -/
def host (downstream : Downstream) : Host ScriptedWallet where
  parks wallet query := query.kind?.any (wallet.blocked.contains ·)
  answer := answer downstream

end ScriptedWallet

end WalletCore.Rpc
