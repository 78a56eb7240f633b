import WalletCore.Rpc.Dialogue
import WalletCore.Rpc.Gate
import WalletCore.Rpc.LockSet

/-! # The dispatcher

The dispatcher admits requests, locks the origins of requests for accounts and runs the dialogue of
each request against a host until the dialogue is over or its query parks. Parked requests are kept
under tags; each of them can be resumed or cancelled at any time and in any order. An origin is
unlocked as soon as its request for accounts is answered or cancelled.
-/
namespace WalletCore.Rpc

/-- What answers the queries, with a state of its own. -/
structure Host (σ : Type) where
  /-- Whether a query that is asked now waits to be resumed. -/
  parks : σ → Query → Bool
  /-- The answer to a query, and the state after it. -/
  answer : σ → (query : Query) → Except Error query.Answer × σ

/-- How far a dialogue got. -/
inductive Progress (α : Type) where
  /-- It is over. -/
  | ended (outcome : Except Error α)
  /-- It waits for the answer to a query that was asked. -/
  | parked (query : Query) (next : query.Answer → Dialogue α)

/-- The end of a run of a dialogue. -/
structure Run (σ α : Type) where
  /-- How far the dialogue got. -/
  progress : Progress α
  /-- The state of the host. -/
  world : σ
  /-- The queries that were asked, in order. -/
  asked : List Query

/-- Run a dialogue until it is over or its query parks. -/
def Dialogue.run {σ α : Type} (host : Host σ) (world : σ) : Dialogue α → Run σ α
  | .done outcome => ⟨.ended outcome, world, []⟩
  | .ask query next =>
    if host.parks world query then ⟨.parked query next, world, [query]⟩
    else
      match host.answer world query with
      | (.error error, world) => ⟨.ended (.error error), world, [query]⟩
      | (.ok answer, world) =>
        let rest := (next answer).run host world
        ⟨rest.progress, rest.world, query :: rest.asked⟩

/-- Let a parked query be answered and run the dialogue on. -/
def Dialogue.resume {σ α : Type} (host : Host σ) (world : σ) (query : Query)
    (next : query.Answer → Dialogue α) : Run σ α :=
  match host.answer world query with
  | (.error error, world) => ⟨.ended (.error error), world, []⟩
  | (.ok answer, world) => (next answer).run host world

/-- A request whose query is parked. -/
structure Call where
  /-- The request. -/
  request : Request
  /-- Whether the request holds the lock of its origin. -/
  holdsLock : Bool
  /-- The query that is parked. -/
  query : Query
  /-- How the request goes on. -/
  next : query.Answer → Dialogue Json

/-- A dispatcher with its host: what is locked, what is parked, and the state of the host. -/
structure System (σ : Type) where
  /-- The state of the host. -/
  world : σ
  /-- The locked origins. -/
  locks : LockSet
  /-- The parked requests, by tag. -/
  calls : Members Call

/-- The answer of the system to one step. -/
structure Reply (σ : Type) where
  /-- The system after the step. -/
  system : System σ
  /-- The response, unless the request is parked. -/
  response : Option Response
  /-- The queries that were asked, in order. -/
  asked : List Query

/-- The method by which an origin asks for accounts and, if need be, for a grant. -/
def requestAccountsMethod : String := "eth_requestAccounts"

/-- Why a second request for accounts of an origin is turned away. -/
def busyError : Error :=
  .resourceUnavailable ("Already processing " ++ requestAccountsMethod ++ ". Please wait.")

/-- Check the version and the origin of a request and the admission of its method, in this
order. -/
def Gate.admit (gate : Gate) (request : Request) : Except Error Access :=
  if request.version ≠ protocolVersion then
    .error (.invalidRequest ("Unsupported jsonrpc version: " ++ request.version))
  else if request.origin.isEmpty then .error (.invalidRequest "Request is missing an origin")
  else gate.check request.method

/-- The dialogue that answers an admitted request. -/
def Request.dialogue (request : Request) : Dialogue Json :=
  if request.method = requestAccountsMethod then
    .ofStrings <$> Dialogue.requestAccounts request.origin
  else if request.method = Gate.accountsMethod then
    .ofStrings <$> Dialogue.currentAccounts request.origin
  else Dialogue.forward request

/-- Whether an admitted request needs the lock of its origin. -/
def Request.needsLock (request : Request) : Bool := request.method = requestAccountsMethod

namespace System

variable {σ : Type}

/-- Nothing locked, nothing parked. -/
def initial (world : σ) : System σ := ⟨world, .empty, .empty⟩

/-- Unlock an origin if its lock was held. -/
def unlockIf (system : System σ) (held : Bool) (origin : String) : System σ :=
  if held then { system with locks := system.locks.release origin } else system

/-- Drop a parked request, if there is one under the tag. -/
def cancel? (system : System σ) (tag : String) : Option (System σ) :=
  (system.calls.get? tag).map fun call =>
    { system with calls := system.calls.remove tag }.unlockIf call.holdsLock call.request.origin

/-- Keep a parked request under a tag; one that was there is dropped. -/
def park (system : System σ) (tag : String) (call : Call) : System σ :=
  let freed := (system.cancel? tag).getD system
  { freed with calls := freed.calls.put tag call }

/-- The reply after a run for a request: a response, and the origin unlocked if its lock was held,
or the request parked. -/
def settle (system : System σ) (tag : String) (request : Request) (held : Bool)
    (run : Run σ Json) : Reply σ :=
  let system := { system with world := run.world }
  match run.progress with
  | .ended outcome =>
    ⟨system.unlockIf held request.origin, some (.ofOutcome request.id outcome), run.asked⟩
  | .parked query next => ⟨system.park tag ⟨request, held, query, next⟩, none, run.asked⟩

/-- Start a request. -/
def start (system : System σ) (host : Host σ) (gate : Gate) (tag : String) (request : Request) :
    Reply σ :=
  match gate.admit request with
  | .error error => ⟨system, some (.failure request.id error), []⟩
  | .ok _ =>
    if request.needsLock then
      match system.locks.acquire? request.origin with
      | none => ⟨system, some (.failure request.id busyError), []⟩
      | some locks =>
        { system with locks }.settle tag request true (request.dialogue.run host system.world)
    else system.settle tag request false (request.dialogue.run host system.world)

/-- Let the query of a parked request be answered and run the request on. -/
def resume? (system : System σ) (host : Host σ) (tag : String) : Option (Reply σ) :=
  (system.calls.get? tag).map fun call =>
    { system with calls := system.calls.remove tag }.settle tag call.request call.holdsLock
      (Dialogue.resume host system.world call.query call.next)

end System

/-- The request in a text, or the response to a text that holds none. A text that is JSON is
answered under the id of the object, if that can be read. -/
def Request.ofText (text : String) : Except Response Request :=
  match Decoder.any.ofText text with
  | .error cause => .error (.failure .null (.parseError cause.message))
  | .ok value =>
    match Request.decoder.ofJson value with
    | .ok request => .ok request
    | .error cause =>
      let id := ((value.get? "id").bind Id.ofJson?).getD .null
      .error (.failure id (.invalidRequest cause.message))

/-- Start the request in a text. -/
def System.startText {σ : Type} (system : System σ) (host : Host σ) (gate : Gate) (tag : String)
    (text : String) : Reply σ :=
  match Request.ofText text with
  | .error response => ⟨system, some response, []⟩
  | .ok request => system.start host gate tag request

end WalletCore.Rpc
