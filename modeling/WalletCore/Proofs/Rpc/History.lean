import WalletCore.Proofs.Members
import WalletCore.Proofs.Rpc.LockDiscipline

/-! # Histories of a dispatcher

A history is a dispatcher together with the log of what happened to its requests since it was made.
It moves by the functions of the dispatcher and only writes down what they do (`system_after`,
`shown_after`). Requests are started, resumed and dropped under any tags and in any order, and
between two steps the host may change in any way.
-/
namespace WalletCore.Rpc

/-- What can happen to a dispatcher. -/
inductive Step (σ : Type) where
  /-- A request is started. -/
  | start (tag : String) (request : Request)
  /-- The query of a parked request is answered. -/
  | resume (tag : String)
  /-- A parked request is dropped. -/
  | cancel (tag : String)
  /-- The host changes on its own. -/
  | change (world : σ)

/-- The reply of a dispatcher to a step; there is none where nothing is parked under the tag. -/
def System.step {σ : Type} (host : Host σ) (gate : Gate) (system : System σ) : Step σ → Reply σ
  | .start tag request => system.start host gate tag request
  | .resume tag => (system.resume? host tag).getD ⟨system, none, []⟩
  | .cancel tag => ⟨(system.cancel? tag).getD system, none, []⟩
  | .change world => ⟨{ system with world }, none, []⟩

/-- The dispatcher after some steps. -/
def System.after {σ : Type} (host : Host σ) (gate : Gate) (world : σ) (steps : List (Step σ)) :
    System σ :=
  steps.foldl (fun system step => (system.step host gate step).system) (initial world)

/-- The replies of a dispatcher to some steps, one after the other. -/
def System.replies {σ : Type} (host : Host σ) (gate : Gate) :
    System σ → List (Step σ) → List (Reply σ)
  | _, [] => []
  | system, step :: rest =>
    let reply := system.step host gate step
    reply :: replies host gate reply.system rest

/-- What others see of a reply: the queries, and then the response. -/
def Reply.shown {σ : Type} (reply : Reply σ) : List (Query ⊕ Response) :=
  reply.asked.map .inl ++ reply.response.toList.map .inr

/-- The events of one request, in order. -/
def eventsOf (log : List Entry) (number : Nat) : List Event :=
  (log.filter (·.number = number)).map (·.event)

/-- A dispatcher with the record of what happened to its requests. -/
structure History (σ : Type) where
  /-- The dispatcher. -/
  system : System σ
  /-- How many requests were started. -/
  started : Nat
  /-- The number of the request that was last parked under a tag. -/
  owner : String → Nat
  /-- What happened, in order. -/
  log : List Entry

namespace History

variable {σ : Type}

/-- Nothing has happened yet. -/
def initial (world : σ) : History σ := ⟨.initial world, 0, fun _ => 0, []⟩

/-- Write down events of a request. -/
def note (history : History σ) (number : Nat) (request : Request) (events : List Event) :
    History σ :=
  { history with log := history.log ++ events.map (⟨number, request, ·⟩) }

/-- Drop the request that is parked under a tag. -/
def cancel (history : History σ) (tag : String) : History σ :=
  match history.system.calls.get? tag with
  | none => history
  | some call =>
    { history.note (history.owner tag) call.request [.cancelled] with
      system := (history.system.cancel? tag).getD history.system }

/-- Park a request under a tag. -/
def park (history : History σ) (tag : String) (number : Nat) (call : Call) : History σ :=
  let freed := history.cancel tag
  { freed with
    system := { freed.system with calls := freed.system.calls.put tag call }
    owner := fun other => if other = tag then number else freed.owner other }

/-- Write down a run for a request and what comes of it. -/
def settle (history : History σ) (tag : String) (number : Nat) (request : Request) (held : Bool)
    (run : Run σ Json) (events : List Event) : History σ :=
  let ran := { history with system := { history.system with world := run.world } }
  let noted := ran.note number request events
  match run.progress with
  | .ended outcome =>
    { noted.note number request [.responded (.ofOutcome request.id outcome)] with
      system := noted.system.unlockIf held request.origin }
  | .parked query next => noted.park tag number ⟨request, held, query, next⟩

/-- Give out the next number to a request that is refused. -/
def refuse (history : History σ) (request : Request) (error : Error) : History σ :=
  { history.note history.started request [.responded (.failure request.id error)] with
    started := history.started + 1 }

/-- Give out the next number to a request that is admitted, with the locks after that. -/
def accept (history : History σ) (request : Request) (locks : LockSet) : History σ :=
  { history.note history.started request [.admitted] with
    system := { history.system with locks }
    started := history.started + 1 }

/-- Start a request. -/
def start (history : History σ) (host : Host σ) (gate : Gate) (tag : String)
    (request : Request) : History σ :=
  match gate.admit request with
  | .error error => history.refuse request error
  | .ok _ =>
    match request.lockIn? history.system.locks with
    | none => history.refuse request busyError
    | some locks =>
      (history.accept request locks).settle tag history.started request request.needsLock
        (request.dialogue.run host history.system.world)
        (request.dialogue.events host history.system.world)

/-- Take the request out that is parked under a tag. -/
def take (history : History σ) (tag : String) : History σ :=
  { history with
    system := { history.system with calls := history.system.calls.remove tag } }

/-- Let the query of a parked request be answered. -/
def resume (history : History σ) (host : Host σ) (tag : String) : History σ :=
  match history.system.calls.get? tag with
  | none => history
  | some call =>
    (history.take tag).settle tag (history.owner tag) call.request call.holdsLock
      (Dialogue.resume host history.system.world call.query call.next)
      (Dialogue.resumeEvents host history.system.world call.query call.next)

/-- The history after one more step. -/
def step (host : Host σ) (gate : Gate) (history : History σ) : Step σ → History σ
  | .start tag request => history.start host gate tag request
  | .resume tag => history.resume host tag
  | .cancel tag => history.cancel tag
  | .change world => { history with system := { history.system with world } }

/-- The history of some steps. -/
def after (host : Host σ) (gate : Gate) (world : σ) (steps : List (Step σ)) : History σ :=
  steps.foldl (step host gate) (initial world)

/-! ## The record is faithful -/

/-- A dropped request is dropped by the dispatcher. -/
theorem system_cancel (history : History σ) (tag : String) :
    (history.cancel tag).system = (history.system.cancel? tag).getD history.system := by
  unfold cancel
  cases found : history.system.calls.get? tag with
  | none => simp [System.cancel?, found]
  | some call => rfl

/-- A parked request is parked by the dispatcher. -/
theorem system_park (history : History σ) (tag : String) (number : Nat) (call : Call) :
    (history.park tag number call).system = history.system.park tag call := by
  simp only [park, System.park, system_cancel]

/-- A run is settled by the dispatcher. -/
theorem system_settle (history : History σ) (tag : String) (number : Nat) (request : Request)
    (held : Bool) (run : Run σ Json) (events : List Event) :
    (history.settle tag number request held run events).system =
      (history.system.settle tag request held run).system := by
  unfold settle System.settle
  cases run.progress with
  | ended outcome => rfl
  | parked query next => exact system_park ..

/-- A request is started by the dispatcher. -/
theorem system_start (history : History σ) (host : Host σ) (gate : Gate) (tag : String)
    (request : Request) :
    (history.start host gate tag request).system =
      (history.system.start host gate tag request).system := by
  unfold start System.start Request.lockIn?
  cases gate.admit request with
  | error error => rfl
  | ok access =>
    cases needs : request.needsLock with
    | false =>
      simp only [Bool.false_eq_true, ↓reduceIte, system_settle]
      rfl
    | true =>
      simp only [↓reduceIte]
      cases history.system.locks.acquire? request.origin with
      | none => rfl
      | some locks =>
        simp only [system_settle]
        rfl

/-- A history moves as its dispatcher does. -/
theorem system_step (host : Host σ) (gate : Gate) (history : History σ) (step : Step σ) :
    (history.step host gate step).system = (history.system.step host gate step).system := by
  cases step with
  | start tag request => exact system_start history host gate tag request
  | resume tag =>
    simp only [History.step, System.step, resume, System.resume?]
    cases found : history.system.calls.get? tag with
    | none => rfl
    | some call => exact system_settle ..
  | cancel tag => exact system_cancel history tag
  | change world => rfl

/-- The dispatcher of a history is the dispatcher after the same steps. -/
theorem system_after (host : Host σ) (gate : Gate) (world : σ) (steps : List (Step σ)) :
    (after host gate world steps).system = System.after host gate world steps := by
  have along : ∀ history : History σ, (steps.foldl (step host gate) history).system =
      steps.foldl (fun system step => (system.step host gate step).system) history.system := by
    induction steps with
    | nil => exact fun _ => rfl
    | cons next rest ih =>
      intro history
      rw [List.foldl_cons, List.foldl_cons, ih, system_step]
  exact along (initial world)

/-- Nothing that was written down is lost when a request is dropped. -/
theorem log_cancel (history : History σ) (tag : String) :
    history.log <+: (history.cancel tag).log := by
  unfold cancel
  cases history.system.calls.get? tag with
  | none => exact List.prefix_rfl
  | some call => exact List.prefix_append ..

/-- Nothing that was written down is lost when a run is settled. -/
theorem log_settle (history : History σ) (tag : String) (number : Nat) (request : Request)
    (held : Bool) (run : Run σ Json) (events : List Event) :
    history.log <+: (history.settle tag number request held run events).log := by
  have noted : history.log <+: (history.note number request events).log :=
    List.prefix_append ..
  unfold settle
  cases run.progress with
  | ended outcome => exact noted.trans (List.prefix_append ..)
  | parked query next =>
    refine noted.trans ?_
    exact log_cancel (note { history with system := { history.system with world := run.world } }
      number request events) tag

/-- What others saw, in order. -/
def shown (history : History σ) : List (Query ⊕ Response) :=
  history.log.filterMap (·.event.shown?)

/-- Writing events down shows what others see of them. -/
theorem shown_note (history : History σ) (number : Nat) (request : Request)
    (events : List Event) :
    (history.note number request events).shown =
      history.shown ++ events.filterMap Event.shown? := by
  rw [shown, note, List.filterMap_append, List.filterMap_map]
  rfl

/-- Others see nothing of a request that is dropped. -/
theorem shown_cancel (history : History σ) (tag : String) :
    (history.cancel tag).shown = history.shown := by
  unfold cancel
  cases history.system.calls.get? tag with
  | none => rfl
  | some call =>
    have noted := shown_note history (history.owner tag) call.request [.cancelled]
    exact noted.trans (List.append_nil _)

/-- A run that is settled shows what the dispatcher replies. -/
theorem shown_settle (history : History σ) (tag : String) (number : Nat) (request : Request)
    (held : Bool) {run : Run σ Json} {events : List Event}
    (ran : events.filterMap Event.shown? = run.asked.map .inl) :
    (history.settle tag number request held run events).shown =
      history.shown ++ (history.system.settle tag request held run).shown := by
  let after : History σ := { history with system := { history.system with world := run.world } }
  have noted : (after.note number request events).shown = history.shown ++ run.asked.map .inl :=
    (shown_note after number request events).trans (by rw [ran]; rfl)
  unfold settle System.settle
  cases run.progress with
  | ended outcome =>
    have answered := shown_note (after.note number request events) number request
      [.responded (.ofOutcome request.id outcome)]
    rw [noted, List.append_assoc] at answered
    exact answered
  | parked query next =>
    have parked := (shown_cancel (after.note number request events) tag).trans noted
    simp only [Reply.shown, Option.toList_none, List.map_nil, List.append_nil]
    exact parked

/-- A request that is started shows what the dispatcher replies. -/
theorem shown_start (history : History σ) (host : Host σ) (gate : Gate) (tag : String)
    (request : Request) :
    (history.start host gate tag request).shown =
      history.shown ++ (history.system.start host gate tag request).shown := by
  have refused : ∀ error, (history.refuse request error).shown =
      history.shown ++ [.inr (.failure request.id error)] := fun error =>
    shown_note history history.started request [.responded (.failure request.id error)]
  have admitted : ∀ locks, (history.accept request locks).shown = history.shown := fun locks =>
    (shown_note history history.started request [.admitted]).trans (List.append_nil _)
  have ran := request.dialogue.shown_events host history.system.world
  unfold start System.start Request.lockIn?
  cases gate.admit request with
  | error error => exact refused error
  | ok access =>
    cases needs : request.needsLock with
    | false =>
      simp only [Bool.false_eq_true, ↓reduceIte, shown_settle _ _ _ _ _ ran, admitted]
      rfl
    | true =>
      simp only [↓reduceIte]
      cases history.system.locks.acquire? request.origin with
      | none => exact refused busyError
      | some locks =>
        simp only [shown_settle _ _ _ _ _ ran, admitted]
        rfl

/-- A step shows what the dispatcher replies. -/
theorem shown_step (host : Host σ) (gate : Gate) (history : History σ) (step : Step σ) :
    (history.step host gate step).shown =
      history.shown ++ (history.system.step host gate step).shown := by
  cases step with
  | start tag request => exact shown_start history host gate tag request
  | resume tag =>
    simp only [History.step, System.step, resume, System.resume?]
    cases found : history.system.calls.get? tag with
    | none => exact (List.append_nil _).symm
    | some call =>
      exact shown_settle (history.take tag) tag _ _ _ (Dialogue.shown_resumeEvents ..)
  | cancel tag => exact (shown_cancel history tag).trans (List.append_nil _).symm
  | change world => exact (List.append_nil _).symm

/-- A history shows what the dispatcher replied. -/
theorem shown_after (host : Host σ) (gate : Gate) (world : σ) (steps : List (Step σ)) :
    (after host gate world steps).shown =
      ((System.initial world).replies host gate steps).flatMap Reply.shown := by
  have along : ∀ history : History σ, (steps.foldl (step host gate) history).shown =
      history.shown ++ (history.system.replies host gate steps).flatMap Reply.shown := by
    induction steps with
    | nil => exact fun _ => (List.append_nil _).symm
    | cons next rest ih =>
      intro history
      rw [List.foldl_cons, ih, shown_step, system_step, List.append_assoc]
      rfl
  exact along (initial world)

end History

end WalletCore.Rpc
