import WalletCore.Proofs.Rpc.History

/-! # Soundness of histories

Every history is sound (`sound_after`): its log is disciplined, each parked request follows a course
of its dialogue up to the query that is parked, and each request that is over was refused, or
answered with the outcome of its course, or dropped at a query that was parked.

Between the steps no request runs. Within a step one request may run, which is then neither parked
nor over, and soundness names it. A step is cut into moves that each keep the soundness of a history
with or without a running request: refuse, accept, exchange, finish, drop, park and take.
-/
namespace WalletCore.Rpc

/-- How the events of a request that is over can look. -/
inductive Closed (request : Request) : List Event → Prop where
  /-- It was refused. -/
  | refused (error : Error) : Closed request [.responded (.failure request.id error)]
  /-- It was answered with the outcome of its dialogue. -/
  | answered {events : List Event} {outcome : Except Error Json}
      (course : request.dialogue.Course events (.ended outcome)) :
    Closed request (.admitted :: (events ++ [.responded (.ofOutcome request.id outcome)]))
  /-- It was dropped while it waited for an answer. -/
  | dropped {events : List Event} {query : Query} {next : query.Answer → Dialogue Json}
      (course : request.dialogue.Course events (.parked query next)) :
    Closed request (.admitted :: (events ++ [.cancelled]))

/-- How a request can end that got so far, if it has ended. -/
inductive Ending (request : Request) : Progress Json → List Event → Prop where
  /-- It has not ended. -/
  | waiting {query : Query} {next : query.Answer → Dialogue Json} :
    Ending request (.parked query next) []
  /-- It was dropped. -/
  | dropped {query : Query} {next : query.Answer → Dialogue Json} :
    Ending request (.parked query next) [.cancelled]
  /-- It was answered. -/
  | answered {outcome : Except Error Json} :
    Ending request (.ended outcome) [.responded (.ofOutcome request.id outcome)]

/-- How the events of a request can look, whether or not it is over. -/
inductive Told (request : Request) : List Event → Prop where
  /-- It was refused. -/
  | refused (error : Error) : Told request [.responded (.failure request.id error)]
  /-- It was admitted and followed a course of its dialogue. -/
  | admitted {events last : List Event} {progress : Progress Json}
      (course : request.dialogue.Course events progress)
      (ending : Ending request progress last) :
    Told request (.admitted :: (events ++ last))

/-- What a log tells about a request in flight: it was admitted and then had these exchanges. -/
structure Runs (log : List Entry) (number : Nat) (request : Request) (events : List Event) :
    Prop where
  /-- The request was admitted. -/
  admitted : ⟨number, request, .admitted⟩ ∈ log
  /-- Nothing else happened to it. -/
  told : eventsOf log number = .admitted :: events
  /-- It asked and was answered, and has not ended. -/
  exchanges : ∀ event ∈ events, event.isExchange = true

/-- A request that holds a lock if it needs one gives it back. -/
theorem System.unlockIf_needsLock {σ : Type} (system : System σ) (request : Request) :
    system.unlockIf request.needsLock request.origin =
      { system with locks := request.unlockIn system.locks } := by
  unfold unlockIf Request.unlockIn
  split <;> rfl

section Events

variable {log : List Entry} {number other : Nat} {request : Request}

/-- The events of a request whose log goes on with events of its own. -/
theorem eventsOf_append_same (log : List Entry) (number : Nat) (request : Request)
    (events : List Event) :
    eventsOf (log ++ events.map (⟨number, request, ·⟩)) number = eventsOf log number ++ events := by
  simp [eventsOf, List.filter_map, Function.comp_def]

/-- The events of a request whose log goes on with events of another one. -/
theorem eventsOf_append_other (apart : other ≠ number) (log : List Entry) (request : Request)
    (events : List Event) :
    eventsOf (log ++ events.map (⟨other, request, ·⟩)) number = eventsOf log number := by
  simp [eventsOf, apart, List.filter_map, Function.comp_def]

/-- An entry tells an event of its number. -/
theorem mem_eventsOf {event : Event} :
    event ∈ eventsOf log number ↔ ∃ entry ∈ log, entry.number = number ∧ entry.event = event := by
  simp [eventsOf, and_assoc]

/-- A number that was not given out has no events. -/
theorem eventsOf_eq_nil (fresh : ∀ entry ∈ log, entry.number ≠ number) :
    eventsOf log number = [] := by
  rw [eventsOf, List.map_eq_nil_iff, List.filter_eq_nil_iff]
  intro entry member
  simp [fresh entry member]

/-- A request that only had exchanges since its admission is in flight. -/
theorem Runs.inFlight {events : List Event} (runs : Runs log number request events) :
    InFlight log number request := by
  refine ⟨runs.admitted, fun entry member same => ?_⟩
  have happened : entry.event ∈ eventsOf log number :=
    mem_eventsOf.2 ⟨entry, member, same, rfl⟩
  rw [runs.told] at happened
  rcases List.mem_cons.1 happened with admission | exchange
  · rw [admission]
    rfl
  · exact Event.isEnd_of_isExchange (runs.exchanges _ exchange)

/-- A request in flight has more exchanges. -/
theorem Runs.append {before events : List Event} (runs : Runs log number request before)
    (exchanges : ∀ event ∈ events, event.isExchange = true) :
    Runs (log ++ events.map (⟨number, request, ·⟩)) number request (before ++ events) where
  admitted := List.mem_append_left _ runs.admitted
  told := by rw [eventsOf_append_same, runs.told, List.cons_append]
  exchanges := List.forall_mem_append.2 ⟨runs.exchanges, exchanges⟩

/-- What happens to one request does not concern another. -/
theorem Runs.append_other {before events : List Event} (runs : Runs log number request before)
    (apart : other ≠ number) (another : Request) :
    Runs (log ++ events.map (⟨other, another, ·⟩)) number request before where
  admitted := List.mem_append_left _ runs.admitted
  told := by rw [eventsOf_append_other apart, runs.told]
  exchanges := runs.exchanges

/-- What happens to other requests leaves a request over. -/
theorem Closed.append_other {before : List Entry}
    (closed : Closed request (eventsOf before number)) (apart : other ≠ number)
    (another : Request) (events : List Event) :
    Closed request (eventsOf (before ++ events.map (⟨other, another, ·⟩)) number) := by
  rwa [eventsOf_append_other apart]

/-- After the end of a request in flight every entry tells of a request that is over, if that holds
of the entries of other requests before. -/
theorem Runs.closed_of_end {started : Nat} {locks : LockSet} {before : List Event} {event : Event}
    (runs : Runs log number request before) (disciplined : Disciplined started locks log)
    (closed : Closed request (.admitted :: (before ++ [event]))) {entry : Entry}
    (member : entry ∈ log ++ [event].map (⟨number, request, ·⟩))
    (otherwise : entry ∈ log → number ≠ entry.number →
      Closed entry.request (eventsOf log entry.number)) :
    Closed entry.request
      (eventsOf (log ++ [event].map (⟨number, request, ·⟩)) entry.number) := by
  have here : Closed request (eventsOf (log ++ [event].map (⟨number, request, ·⟩)) number) := by
    rw [eventsOf_append_same, runs.told]
    exact closed
  rcases List.mem_append.1 member with former | new
  · by_cases same : number = entry.number
    · have whole := disciplined.same_request _ runs.admitted entry former same
      simp only at whole
      rw [← whole, ← same]
      exact here
    · exact (otherwise former same).append_other same request _
  · rw [List.mem_singleton.1 new]
    exact here

/-- A log stays disciplined when a request in flight has more exchanges. -/
theorem Disciplined.append {started : Nat} {locks : LockSet} {before events : List Event}
    (disciplined : Disciplined started locks log) (runs : Runs log number request before)
    (exchanges : ∀ event ∈ events, event.isExchange = true) :
    Disciplined started locks (log ++ events.map (⟨number, request, ·⟩)) := by
  induction events generalizing log before with
  | nil => simpa using disciplined
  | cons event rest ih =>
    obtain ⟨first, others⟩ := List.forall_mem_cons.1 exchanges
    have single : ∀ later ∈ [event], later.isExchange = true := List.forall_mem_singleton.2 first
    have extended := ih (.exchanged runs.inFlight first disciplined) (runs.append single) others
    simpa using extended

end Events

/-- A history whose log is disciplined and tells the course of every request; the number of a
request that runs just now is set apart. -/
structure Sound {σ : Type} (running : Option Nat) (history : History σ) : Prop where
  /-- The log is disciplined and leads to the locks that are held. -/
  disciplined : Disciplined history.started history.system.locks history.log
  /-- No request is parked under two tags. -/
  single : ∀ first second firstCall secondCall,
    history.system.calls.get? first = some firstCall →
    history.system.calls.get? second = some secondCall →
    history.owner first = history.owner second → first = second
  /-- A parked request holds its lock if it needs one, and followed a course to its query. -/
  parked : ∀ tag call, history.system.calls.get? tag = some call →
    running ≠ some (history.owner tag) ∧ call.holdsLock = call.request.needsLock ∧
      ∃ events, Runs history.log (history.owner tag) call.request events ∧
        call.request.dialogue.Course events (.parked call.query call.next)
  /-- A request that is neither running nor parked is over. -/
  closed : ∀ entry ∈ history.log, running ≠ some entry.number →
    (∀ tag call, history.system.calls.get? tag = some call →
      history.owner tag ≠ entry.number) →
    Closed entry.request (eventsOf history.log entry.number)

namespace Sound

variable {σ : Type} {history : History σ} {number : Nat} {request : Request}

/-- Before the first step. -/
theorem initial (world : σ) : Sound none (History.initial world) where
  disciplined := .nothing
  single first second firstCall secondCall found := by
    simp [History.initial, System.initial, Members.get?, Members.empty] at found
  parked tag call found := by
    simp [History.initial, System.initial, Members.get?, Members.empty] at found
  closed entry member := by simp [History.initial] at member

/-- The state of the host does not matter. -/
theorem world {running : Option Nat} (sound : Sound running history) (world : σ) :
    Sound running { history with system := { history.system with world } } :=
  ⟨sound.disciplined, sound.single, sound.parked, sound.closed⟩

/-- A request is refused. -/
theorem refuse (sound : Sound none history) (request : Request) (error : Error) :
    Sound none (history.refuse request error) := by
  have fresh : ∀ entry ∈ history.log, entry.number ≠ history.started := by
    intro entry member
    exact Nat.ne_of_lt (sound.disciplined.number_lt entry member)
  refine ⟨sound.disciplined.refused request _, sound.single, fun tag call found => ?_, ?_⟩
  · obtain ⟨idle, held, events, runs, course⟩ := sound.parked tag call found
    have apart : history.started ≠ history.owner tag := (fresh _ runs.admitted).symm
    exact ⟨idle, held, events, runs.append_other apart request, course⟩
  · refine List.forall_mem_append.2 ⟨fun entry member idle unparked => ?_, ?_⟩
    · have other : history.started ≠ entry.number := (fresh entry member).symm
      have closed := sound.closed entry member idle unparked
      exact closed.append_other other request _
    · intro entry new _ _
      cases List.mem_singleton.1 new
      have told := eventsOf_append_same history.log history.started request
        [.responded (.failure request.id error)]
      rw [eventsOf_eq_nil fresh] at told
      exact told ▸ Closed.refused error

/-- A request is admitted and runs. -/
theorem accept (sound : Sound none history) {request : Request} {locks : LockSet}
    (locked : request.lockIn? history.system.locks = some locks) :
    Sound (some history.started) (history.accept request locks) ∧
      Runs (history.accept request locks).log history.started request [] := by
  have fresh : ∀ entry ∈ history.log, entry.number ≠ history.started := by
    intro entry member
    exact Nat.ne_of_lt (sound.disciplined.number_lt entry member)
  refine ⟨⟨sound.disciplined.admitted locked, sound.single, fun tag call found => ?_, ?_⟩, ?_⟩
  · obtain ⟨-, held, events, runs, course⟩ := sound.parked tag call found
    have apart : history.started ≠ history.owner tag := (fresh _ runs.admitted).symm
    exact ⟨fun same => apart (Option.some.inj same), held, events,
      runs.append_other apart request, course⟩
  · refine List.forall_mem_append.2 ⟨fun entry member idle unparked => ?_, ?_⟩
    · have other : history.started ≠ entry.number := (fresh entry member).symm
      have closed := sound.closed entry member (Option.some_ne_none _).symm unparked
      exact closed.append_other other request _
    · intro entry new running
      cases List.mem_singleton.1 new
      exact absurd rfl running
  · have told := eventsOf_append_same history.log history.started request [.admitted]
    rw [eventsOf_eq_nil fresh] at told
    refine ⟨List.mem_append_right _ (List.mem_singleton_self _), told, fun event member => ?_⟩
    exact absurd member List.not_mem_nil

/-- A running request has more exchanges. -/
theorem exchange (sound : Sound (some number) history) {before events : List Event}
    (runs : Runs history.log number request before)
    (exchanges : ∀ event ∈ events, event.isExchange = true) :
    Sound (some number) (history.note number request events) ∧
      Runs (history.note number request events).log number request (before ++ events) := by
  refine ⟨⟨sound.disciplined.append runs exchanges, sound.single, fun tag call found => ?_, ?_⟩,
    runs.append exchanges⟩
  · obtain ⟨idle, held, former, others, course⟩ := sound.parked tag call found
    have apart : number ≠ history.owner tag := fun same => idle (congrArg some same)
    exact ⟨idle, held, former, others.append_other apart request, course⟩
  · refine List.forall_mem_append.2 ⟨fun entry member idle unparked => ?_, ?_⟩
    · have other : number ≠ entry.number := fun same => idle (congrArg some same)
      have closed := sound.closed entry member idle unparked
      exact closed.append_other other request events
    · intro entry new running
      obtain ⟨event, -, rfl⟩ := List.mem_map.1 new
      exact absurd rfl running

/-- A running request ends, and is answered. -/
theorem finish (sound : Sound (some number) history) {before : List Event}
    {outcome : Except Error Json} (runs : Runs history.log number request before)
    (course : request.dialogue.Course before (.ended outcome)) :
    Sound none { history.note number request [.responded (.ofOutcome request.id outcome)] with
      system := history.system.unlockIf request.needsLock request.origin } := by
  rw [System.unlockIf_needsLock]
  refine ⟨sound.disciplined.ended runs.inFlight rfl, sound.single, fun tag call found => ?_, ?_⟩
  · obtain ⟨idle, held, former, others, path⟩ := sound.parked tag call found
    have apart : number ≠ history.owner tag := fun same => idle (congrArg some same)
    exact ⟨(Option.some_ne_none _).symm, held, former, others.append_other apart request, path⟩
  · intro entry member _ unparked
    refine runs.closed_of_end sound.disciplined (.answered course) member fun former apart => ?_
    exact sound.closed entry former (fun here => apart (Option.some.inj here)) unparked

/-- A parked request is dropped. -/
theorem cancel {running : Option Nat} (sound : Sound running history) (tag : String) :
    Sound running (history.cancel tag) := by
  unfold History.cancel
  cases found : history.system.calls.get? tag with
  | none => exact sound
  | some call =>
    obtain ⟨-, held, events, runs, course⟩ := sound.parked tag call found
    have dropped : (history.system.cancel? tag).getD history.system =
        { history.system with
          calls := history.system.calls.remove tag
          locks := call.request.unlockIn history.system.locks } := by
      simp only [System.cancel?, found, Option.map_some, Option.getD_some, held,
        System.unlockIf_needsLock]
    simp only [dropped]
    refine ⟨sound.disciplined.ended runs.inFlight rfl, ?_, fun other another kept => ?_, ?_⟩
    · intro first second firstCall secondCall firstFound secondFound
      rw [Members.get?_remove, Option.ite_none_left_eq_some] at firstFound secondFound
      exact sound.single first second firstCall secondCall firstFound.2 secondFound.2
    · rw [Members.get?_remove, Option.ite_none_left_eq_some] at kept
      obtain ⟨idle, holds, former, others, path⟩ := sound.parked other another kept.2
      have apart : history.owner tag ≠ history.owner other := fun same =>
        kept.1 (sound.single tag other call another found kept.2 same).symm
      exact ⟨idle, holds, former, others.append_other apart call.request, path⟩
    · intro entry member idle unparked
      refine runs.closed_of_end sound.disciplined (.dropped course) member fun former apart => ?_
      refine sound.closed entry former idle fun other another kept => ?_
      by_cases same : other = tag
      · rw [same]
        exact apart
      · refine unparked other another ?_
        rw [Members.get?_remove, if_neg same]
        exact kept

/-- Dropping a parked request frees its tag. -/
theorem get?_cancel (history : History σ) (tag : String) :
    (history.cancel tag).system.calls.get? tag = none := by
  rw [History.system_cancel, System.cancel?]
  cases found : history.system.calls.get? tag with
  | none => exact found
  | some call =>
    simp only [Option.map_some, Option.getD_some, System.unlockIf]
    split <;> rw [Members.get?_remove, if_pos rfl]

/-- Dropping a parked request does not concern one that runs. -/
theorem runs_cancel (sound : Sound (some number) history) {before : List Event}
    (runs : Runs history.log number request before) (tag : String) :
    Runs (history.cancel tag).log number request before := by
  unfold History.cancel
  cases found : history.system.calls.get? tag with
  | none => exact runs
  | some call =>
    obtain ⟨idle, -⟩ := sound.parked tag call found
    exact runs.append_other (fun same => idle (congrArg some same.symm)) call.request

/-- A running request waits for the answer to a query. -/
theorem park (sound : Sound (some number) history) {before : List Event} {query : Query}
    {next : query.Answer → Dialogue Json} (runs : Runs history.log number request before)
    (course : request.dialogue.Course before (.parked query next)) (tag : String) :
    Sound none (history.park tag number ⟨request, request.needsLock, query, next⟩) := by
  have freed := sound.cancel tag
  have stays := sound.runs_cancel runs tag
  -- Under the tag stands the new call; under another tag what stood there, which is not running.
  have placed : ∀ other another,
      (history.park tag number ⟨request, request.needsLock, query, next⟩).system.calls.get? other =
        some another →
      (other = tag ∧ another = ⟨request, request.needsLock, query, next⟩ ∧
        (history.park tag number ⟨request, request.needsLock, query, next⟩).owner other = number) ∨
      ((history.cancel tag).system.calls.get? other = some another ∧
        (history.park tag number ⟨request, request.needsLock, query, next⟩).owner other =
          (history.cancel tag).owner other ∧ (history.cancel tag).owner other ≠ number) := by
    intro other another found
    simp only [History.park, Members.get?_put] at found ⊢
    by_cases same : other = tag
    · rw [if_pos same] at found ⊢
      exact .inl ⟨same, (Option.some.inj found).symm, rfl⟩
    · rw [if_neg same] at found ⊢
      exact .inr ⟨found, rfl, fun here => (freed.parked other another found).1 (by rw [here])⟩
  refine ⟨freed.disciplined, ?_, fun other another found => ?_, ?_⟩
  · intro first second firstCall secondCall firstFound secondFound same
    rcases placed first firstCall firstFound with
      ⟨rfl, -, firstOwner⟩ | ⟨firstKept, firstOwner, firstApart⟩
    · rcases placed second secondCall secondFound with
        ⟨rfl, -, -⟩ | ⟨secondKept, secondOwner, secondApart⟩
      · rfl
      · rw [firstOwner, secondOwner] at same
        exact absurd same.symm secondApart
    · rcases placed second secondCall secondFound with
        ⟨rfl, -, secondOwner⟩ | ⟨secondKept, secondOwner, secondApart⟩
      · rw [firstOwner, secondOwner] at same
        exact absurd same firstApart
      · rw [firstOwner, secondOwner] at same
        exact freed.single first second firstCall secondCall firstKept secondKept same
  · rcases placed other another found with ⟨rfl, rfl, owner⟩ | ⟨kept, owner, -⟩
    · rw [owner]
      exact ⟨(Option.some_ne_none _).symm, rfl, before, stays, course⟩
    · rw [owner]
      obtain ⟨-, rest⟩ := freed.parked other another kept
      exact ⟨(Option.some_ne_none _).symm, rest⟩
  · intro entry member _ unparked
    have apart : number ≠ entry.number := by
      refine fun same => unparked tag ⟨request, request.needsLock, query, next⟩ ?_ ?_
      · simp only [History.park, Members.get?_put, ↓reduceIte]
      · simp only [History.park, ↓reduceIte, same]
    refine freed.closed entry member (fun here => apart (Option.some.inj here)) ?_
    intro other another kept
    have elsewhere : other ≠ tag := by
      intro same
      rw [same, get?_cancel] at kept
      contradiction
    have still := unparked other another
    simp only [History.park, Members.get?_put, if_neg elsewhere] at still
    exact still kept

/-- A parked request is taken out and runs. -/
theorem take (sound : Sound none history) {tag : String} {call : Call}
    (found : history.system.calls.get? tag = some call) :
    Sound (some (history.owner tag)) (history.take tag) := by
  have kept : ∀ other another, (history.take tag).system.calls.get? other = some another →
      other ≠ tag ∧ history.system.calls.get? other = some another := by
    intro other another left
    simp only [History.take, Members.get?_remove, Option.ite_none_left_eq_some] at left
    exact left
  refine ⟨sound.disciplined, ?_, fun other another left => ?_, ?_⟩
  · intro first second firstCall secondCall firstFound secondFound
    exact sound.single first second firstCall secondCall (kept _ _ firstFound).2
      (kept _ _ secondFound).2
  · obtain ⟨different, stood⟩ := kept other another left
    obtain ⟨-, rest⟩ := sound.parked other another stood
    refine ⟨fun same => different ?_, rest⟩
    exact (sound.single tag other call another found stood (Option.some.inj same)).symm
  · intro entry member idle unparked
    refine sound.closed entry member (Option.some_ne_none _).symm fun other another stood => ?_
    by_cases same : other = tag
    · rw [same]
      exact fun here => idle (congrArg some here)
    · refine unparked other another ?_
      simp only [History.take, Members.get?_remove, if_neg same]
      exact stood

/-- A run for a running request is settled. -/
theorem settle (sound : Sound (some number) history) {before events : List Event}
    (runs : Runs history.log number request before) {run : Run σ Json}
    (course : request.dialogue.Course (before ++ events) run.progress) (tag : String) :
    Sound none (history.settle tag number request request.needsLock run events) := by
  have exchanges : ∀ event ∈ events, event.isExchange = true := fun event member =>
    course.isExchange event (List.mem_append_right _ member)
  obtain ⟨noted, ran⟩ := (sound.world run.world).exchange runs exchanges
  unfold History.settle
  cases reached : run.progress with
  | ended outcome =>
    rw [reached] at course
    exact noted.finish ran course
  | parked query next =>
    rw [reached] at course
    exact noted.park ran course tag

/-- A request is started. -/
theorem start (sound : Sound none history) (host : Host σ) (gate : Gate) (tag : String)
    (request : Request) : Sound none (history.start host gate tag request) := by
  unfold History.start
  cases gate.admit request with
  | error error => exact sound.refuse request error
  | ok access =>
    cases locked : request.lockIn? history.system.locks with
    | none => exact sound.refuse request busyError
    | some locks =>
      obtain ⟨admitted, runs⟩ := sound.accept locked
      exact admitted.settle runs (Dialogue.course_run host _ request.dialogue) tag

/-- A parked request is resumed. -/
theorem resume (sound : Sound none history) (host : Host σ) (tag : String) :
    Sound none (history.resume host tag) := by
  unfold History.resume
  cases found : history.system.calls.get? tag with
  | none => exact sound
  | some call =>
    obtain ⟨-, held, before, runs, course⟩ := sound.parked tag call found
    have goesOn := Dialogue.course_resume host history.system.world course rfl
    have settled := (sound.take found).settle runs goesOn tag
    rw [← held] at settled
    exact settled

/-- Every step keeps a history sound. -/
theorem step (sound : Sound none history) (host : Host σ) (gate : Gate) (next : Step σ) :
    Sound none (history.step host gate next) := by
  cases next with
  | start tag request => exact sound.start host gate tag request
  | resume tag => exact sound.resume host tag
  | cancel tag => exact sound.cancel tag
  | change world => exact sound.world world

/-- Every history is sound. -/
theorem sound_after (host : Host σ) (gate : Gate) (world : σ) (steps : List (Step σ)) :
    Sound none (History.after host gate world steps) := by
  have along : ∀ history : History σ, Sound none history →
      Sound none (steps.foldl (History.step host gate) history) := by
    induction steps with
    | nil => exact fun _ sound => sound
    | cons next rest ih => exact fun _ sound => ih _ (sound.step host gate next)
  exact along _ (.initial world)

/-- The events of every request in the log are told. -/
theorem told (sound : Sound none history) {entry : Entry} (member : entry ∈ history.log) :
    Told entry.request (eventsOf history.log entry.number) := by
  by_cases waits : ∃ tag call, history.system.calls.get? tag = some call ∧
      history.owner tag = entry.number
  · obtain ⟨tag, call, found, same⟩ := waits
    obtain ⟨-, -, events, runs, course⟩ := sound.parked tag call found
    have whole := sound.disciplined.same_request _ runs.admitted entry member same
    simp only at whole
    rw [← same, runs.told, ← whole, ← List.append_nil events]
    exact .admitted course .waiting
  · have closed := sound.closed entry member (Option.some_ne_none _).symm fun tag call found same =>
      waits ⟨tag, call, found, same⟩
    generalize eventsOf history.log entry.number = events at closed ⊢
    cases closed with
    | refused error => exact .refused error
    | answered course => exact .admitted course .answered
    | dropped course => exact .admitted course .dropped

/-- Between two steps the requests in flight are the parked ones. -/
theorem inFlight_iff (sound : Sound none history) (number : Nat) (request : Request) :
    InFlight history.log number request ↔
      ∃ tag call, history.system.calls.get? tag = some call ∧ history.owner tag = number ∧
        call.request = request := by
  constructor
  · rintro ⟨admitted, unended⟩
    apply Classical.byContradiction
    intro absent
    have unparked : ∀ tag call, history.system.calls.get? tag = some call →
        history.owner tag ≠ number := by
      intro tag call found same
      obtain ⟨-, -, events, runs, -⟩ := sound.parked tag call found
      refine absent ⟨tag, call, found, same, ?_⟩
      exact sound.disciplined.same_request _ runs.admitted _ admitted same
    -- A request that is over had a last event, and that event is told.
    have closed := sound.closed _ admitted (Option.some_ne_none _).symm unparked
    obtain ⟨event, happened, last⟩ : ∃ event ∈ eventsOf history.log number,
        event.isEnd = true := by
      simp only at closed
      generalize eventsOf history.log number = events at closed
      cases closed with
      | refused error => exact ⟨_, List.mem_singleton_self _, rfl⟩
      | @answered _ outcome course =>
        refine ⟨.responded (.ofOutcome request.id outcome), ?_, rfl⟩
        exact List.mem_cons_of_mem _ (List.mem_append_right _ (List.mem_singleton_self _))
      | dropped course =>
        refine ⟨.cancelled, ?_, rfl⟩
        exact List.mem_cons_of_mem _ (List.mem_append_right _ (List.mem_singleton_self _))
    obtain ⟨entry, member, same, rfl⟩ := mem_eventsOf.1 happened
    rw [unended entry member same] at last
    contradiction
  · rintro ⟨tag, call, found, rfl, rfl⟩
    obtain ⟨-, -, events, runs, -⟩ := sound.parked tag call found
    exact runs.inFlight

end Sound

end WalletCore.Rpc
