import WalletCore.Rpc.Dispatcher

/-! # Courses of dialogues

A dialogue is a tree of queries. A course is one way through it: the queries that were asked, what
each was answered with, and how far the dialogue got. A run of a dialogue against a host takes a
course, and a query that was parked goes on along the course that led to it, so what is true of
every course of a dialogue is true of it under every host and every schedule.
-/
namespace WalletCore.Rpc

/-- One thing that happens to a request. -/
inductive Event where
  /-- The request passed every check, and took the lock of its origin if it needs it. -/
  | admitted
  /-- A query was asked. -/
  | asked (query : Query)
  /-- A query was answered, or failed. -/
  | answered (query : Query) (answer : Except Error query.Answer)
  /-- The response was given. -/
  | responded (response : Response)
  /-- The request was dropped. -/
  | cancelled

namespace Event

/-- The query that was asked. -/
def query? : Event → Option Query
  | .asked query => some query
  | .admitted | .answered .. | .responded _ | .cancelled => none

/-- What others see of it: a query or a response. -/
def shown? : Event → Option (Query ⊕ Response)
  | .asked query => some (.inl query)
  | .responded response => some (.inr response)
  | .admitted | .answered .. | .cancelled => none

/-- Whether the request is over after this. -/
def isEnd : Event → Bool
  | .responded _ | .cancelled => true
  | .admitted | .asked _ | .answered .. => false

/-- Whether this is a query or an answer to one. -/
def isExchange : Event → Bool
  | .asked _ | .answered .. => true
  | .admitted | .responded _ | .cancelled => false

/-- Whether this is the response. -/
def isResponse : Event → Bool
  | .responded _ => true
  | .admitted | .asked _ | .answered .. | .cancelled => false

/-- Whether no query may follow: one failed, or the request was dropped. -/
def isBreak : Event → Bool
  | .answered _ (.error _) | .cancelled => true
  | .answered _ (.ok _) | .admitted | .asked _ | .responded _ => false

/-- An exchange ends no request. -/
theorem isEnd_of_isExchange {event : Event} (exchange : event.isExchange = true) :
    event.isEnd = false := by
  cases event <;> first | rfl | contradiction

end Event

/-- The queries that were asked, in order. -/
def queries (events : List Event) : List Query := events.filterMap Event.query?

/-- The queries of two stretches of events, one after the other. -/
theorem queries_append (first second : List Event) :
    queries (first ++ second) = queries first ++ queries second :=
  List.filterMap_append

/-- What leads to a query does not reach an event after it that is no query. -/
theorem asked_prefix_of_concat {before events : List Event} {query : Query} {event : Event}
    (silent : event.query? = none) (asked : before ++ [.asked query] <+: events ++ [event]) :
    before ++ [.asked query] <+: events := by
  rcases List.prefix_concat_iff.1 asked with whole | within
  · rw [← List.singleton_inj.1 (List.append_inj' whole rfl).2] at silent
    contradiction
  · exact within

namespace Dialogue

variable {σ α : Type}

/-- The events of a run of a dialogue. -/
def events (host : Host σ) (world : σ) : Dialogue α → List Event
  | .done _ => []
  | .ask query next =>
    .asked query ::
      if host.parks world query then []
      else
        match host.answer world query with
        | (.error error, _) => [.answered query (.error error)]
        | (.ok answer, world) => .answered query (.ok answer) :: (next answer).events host world

/-- The events of a run that goes on with the answer to a parked query. -/
def resumeEvents (host : Host σ) (world : σ) (query : Query)
    (next : query.Answer → Dialogue α) : List Event :=
  match host.answer world query with
  | (.error error, _) => [.answered query (.error error)]
  | (.ok answer, world) => .answered query (.ok answer) :: (next answer).events host world

/-- A way through a dialogue: the events on it and how far it leads. -/
inductive Course : Dialogue α → List Event → Progress α → Prop where
  /-- The dialogue is over. -/
  | finished (outcome : Except Error α) : Course (.done outcome) [] (.ended outcome)
  /-- A query waits for its answer. -/
  | waiting (query : Query) (next : query.Answer → Dialogue α) :
    Course (.ask query next) [.asked query] (.parked query next)
  /-- A query fails, and the dialogue ends with its error. -/
  | failed (query : Query) (next : query.Answer → Dialogue α) (error : Error) :
    Course (.ask query next) [.asked query, .answered query (.error error)]
      (.ended (.error error))
  /-- A query is answered, and the dialogue goes on. -/
  | goesOn {query : Query} {next : query.Answer → Dialogue α} (answer : query.Answer)
    {events : List Event} {progress : Progress α} (rest : Course (next answer) events progress) :
    Course (.ask query next) (.asked query :: .answered query (.ok answer) :: events) progress

/-- A run takes a course of the dialogue. -/
theorem course_run (host : Host σ) (world : σ) (dialogue : Dialogue α) :
    Course dialogue (dialogue.events host world) (dialogue.run host world).progress := by
  induction dialogue generalizing world with
  | done outcome => exact .finished outcome
  | ask query next ih =>
    simp only [events, run]
    cases parks : host.parks world query with
    | true =>
      simp only [↓reduceIte]
      exact .waiting query next
    | false =>
      simp only [Bool.false_eq_true, ↓reduceIte]
      rcases host.answer world query with ⟨error | answer, after⟩
      · exact .failed query next error
      · exact .goesOn answer (ih answer after)

/-- A parked query goes on along the course that led to it. -/
theorem course_resume (host : Host σ) (world : σ) {dialogue : Dialogue α} {before : List Event}
    {query : Query} {next : query.Answer → Dialogue α} {progress : Progress α}
    (course : Course dialogue before progress) (parked : progress = .parked query next) :
    Course dialogue (before ++ resumeEvents host world query next)
      (resume host world query next).progress := by
  induction course with
  | finished outcome => contradiction
  | waiting asked following =>
    cases parked
    simp only [resumeEvents, resume]
    rcases host.answer world query with ⟨error | answer, after⟩
    · exact .failed query next error
    · exact .goesOn answer (course_run host after (next answer))
  | failed asked following error => contradiction
  | goesOn answer rest ih => exact .goesOn answer (ih parked)

/-- A course consists of queries and their answers. -/
theorem Course.isExchange {dialogue : Dialogue α} {events : List Event} {progress : Progress α}
    (course : Course dialogue events progress) : ∀ event ∈ events, event.isExchange = true := by
  induction course with
  | finished outcome => simp
  | waiting query next => simp [Event.isExchange]
  | failed query next error => simp [Event.isExchange]
  | goesOn answer rest ih => simpa [Event.isExchange] using ih

/-- What others see of a run are the queries that it reports. -/
theorem shown_events (host : Host σ) (world : σ) (dialogue : Dialogue α) :
    (dialogue.events host world).filterMap Event.shown? =
      (dialogue.run host world).asked.map .inl := by
  induction dialogue generalizing world with
  | done outcome => rfl
  | ask query next ih =>
    simp only [events, run]
    cases parks : host.parks world query with
    | true => rfl
    | false =>
      simp only [Bool.false_eq_true, ↓reduceIte]
      rcases host.answer world query with ⟨error | answer, after⟩
      · rfl
      · exact congrArg (.inl query :: ·) (ih answer after)

/-- The same for a run that goes on with the answer to a parked query. -/
theorem shown_resumeEvents (host : Host σ) (world : σ) (query : Query)
    (next : query.Answer → Dialogue α) :
    (resumeEvents host world query next).filterMap Event.shown? =
      (resume host world query next).asked.map .inl := by
  simp only [resumeEvents, resume]
  rcases host.answer world query with ⟨error | answer, after⟩
  · rfl
  · exact shown_events host after (next answer)

/-- After a query failed nothing more is asked. -/
theorem Course.nothing_after_break {dialogue : Dialogue α} {events : List Event}
    {progress : Progress α} (course : Course dialogue events progress) :
    events.Pairwise fun earlier later => earlier.isBreak = true → later.query? = none := by
  induction course with
  | finished outcome => exact .nil
  | waiting query next => exact List.pairwise_singleton ..
  | failed query next error => simp [Event.isBreak]
  | goesOn answer rest ih =>
    refine List.pairwise_cons.2 ⟨fun _ _ broken => by contradiction, ?_⟩
    exact List.pairwise_cons.2 ⟨fun _ _ broken => by contradiction, ih⟩

end Dialogue

end WalletCore.Rpc
