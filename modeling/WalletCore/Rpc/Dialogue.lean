import WalletCore.Authorization.Basic
import WalletCore.Rpc.Message

/-! # Dialogues with the wallet

A handler answers a request by asking the wallet, or whatever stands behind the dispatcher, one
query after another. A dialogue is such a handler as a value: it is over, with a result or an
error, or it asks a query and goes on with the answer. A query that fails ends the dialogue with
its error unchanged.
-/
namespace WalletCore.Rpc

/-- What a handler asks. -/
inductive Query where
  /-- The accounts that an origin may see. A locked wallet shows none, unless its lock is to be
  ignored. -/
  | accounts (origin : String) (ignoreLock : Bool)
  /-- Wait until the wallet is unlocked, with a prompt for the user or without. -/
  | unlock (prompt : Bool)
  /-- The authorization that the user approves for an origin. -/
  | approval (origin : String)
  /-- Grant an authorization to an origin. -/
  | grant (origin : String) (value : Authorization)
  /-- The result of a request that is handled elsewhere. -/
  | forward (request : Request)
deriving DecidableEq

/-- What a query is answered with. -/
abbrev Query.Answer : Query → Type
  | .accounts .. => List String
  | .unlock _ => Unit
  | .approval _ => Authorization
  | .grant .. => Unit
  | .forward _ => Json

/-- A handler with the queries that it still asks. -/
inductive Dialogue (α : Type) : Type where
  /-- The dialogue is over. -/
  | done (outcome : Except Error α)
  /-- A query is asked, and the dialogue goes on with its answer. -/
  | ask (query : Query) (next : query.Answer → Dialogue α)

namespace Dialogue

variable {α β : Type}

/-- Go on with the result of a dialogue, unless it fails. -/
def bind (dialogue : Dialogue α) (next : α → Dialogue β) : Dialogue β :=
  match dialogue with
  | .done (.ok result) => next result
  | .done (.error error) => .done (.error error)
  | .ask query follow => .ask query fun answer => (follow answer).bind next

instance : Monad Dialogue where
  pure result := .done (.ok result)
  bind := bind

/-- Ask one query and end with its answer. -/
def query (query : Query) : Dialogue query.Answer := .ask query fun answer => .done (.ok answer)

/-- The accounts that an origin may see. -/
def accounts (origin : String) (ignoreLock : Bool) : Dialogue (List String) :=
  query (.accounts origin ignoreLock)

/-- Wait until the wallet is unlocked, with a prompt for the user. -/
def unlock : Dialogue Unit := query (.unlock true)

/-- The authorization that the user approves for an origin. -/
def approval (origin : String) : Dialogue Authorization := query (.approval origin)

/-- Grant an authorization to an origin. -/
def grant (origin : String) (value : Authorization) : Dialogue Unit := query (.grant origin value)

/-- The result of a request that is handled elsewhere. -/
def forward (request : Request) : Dialogue Json := query (.forward request)

/-- Answer a request for accounts. An origin that may see accounts waits for the unlocked wallet
and gets them; any other origin gets the accounts that it may see after the user approved an
authorization and it was granted. -/
def requestAccounts (origin : String) : Dialogue (List String) := do
  let known ← accounts origin true
  if known.isEmpty then
    grant origin (← approval origin)
    accounts origin true
  else
    unlock
    return known

/-- Answer a question for the accounts that an origin may see now. -/
def currentAccounts (origin : String) : Dialogue (List String) := accounts origin false

end Dialogue

end WalletCore.Rpc
