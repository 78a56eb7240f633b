import WalletCore.Proofs.Rpc.AccountsDialogue
import WalletCore.Proofs.Rpc.History
import WalletCore.Proofs.Rpc.TextAnswers

/-! # Texts that wait for their answers

A text that holds a request may have to wait, while other requests come and go. Nothing that happens
under other tags touches the call that is parked for it (`System.get?_calls_step_of_other`), so the
call holds the request of the text until it is answered (`Awaiting.call`). A dialogue asks at most
four queries, and each time that a request is resumed there is one less to ask, so every text is
answered in the end, and under its id (`text_answered_under_id`).
-/
namespace WalletCore.Rpc

/-! ## Dialogues end -/

/-- Whether a dialogue asks no more than a number of queries, whatever the answers are. -/
inductive Dialogue.Within {α : Type} : Nat → Dialogue α → Prop where
  /-- A dialogue that is over asks nothing. -/
  | done (limit : Nat) (outcome : Except Error α) : Within limit (.done outcome)
  /-- One query is asked, and the dialogue goes on with one query less. -/
  | ask {limit : Nat} {query : Query} {next : query.Answer → Dialogue α}
      (later : ∀ answer, Within limit (next answer)) : Within (limit + 1) (.ask query next)

namespace Dialogue

variable {σ α : Type} {limit : Nat}

/-- A dialogue within a limit is within a higher one. -/
theorem Within.succ {dialogue : Dialogue α} (within : dialogue.Within limit) :
    dialogue.Within (limit + 1) := by
  induction within with
  | done limit outcome => exact .done _ outcome
  | ask later ih => exact .ask ih

/-- Behind a query at which a run stops one query less is asked. -/
theorem Within.of_parked {dialogue : Dialogue α} (within : dialogue.Within limit) (host : Host σ)
    (world : σ) {query : Query} {next : query.Answer → Dialogue α}
    (parked : (dialogue.run host world).progress = .parked query next) :
    ∃ less, limit = less + 1 ∧ ∀ answer, (next answer).Within less := by
  induction within generalizing world with
  | done limit outcome => contradiction
  | @ask less asked following later ih =>
    rw [run] at parked
    split at parked
    · cases parked
      exact ⟨less, rfl, later⟩
    · split at parked
      · contradiction
      · obtain ⟨fewer, rfl, behind⟩ := ih _ _ parked
        exact ⟨fewer + 1, rfl, fun answer => (behind answer).succ⟩

/-- The same where a parked query is answered first. -/
theorem within_of_resume_parked {query : Query} {next : query.Answer → Dialogue α}
    (within : ∀ answer, (next answer).Within limit) (host : Host σ) (world : σ) {again : Query}
    {behind : again.Answer → Dialogue α}
    (parked : (resume host world query next).progress = .parked again behind) :
    ∃ less, limit = less + 1 ∧ ∀ answer, (behind answer).Within less := by
  unfold resume at parked
  split at parked
  · contradiction
  · exact (within _).of_parked host _ parked

end Dialogue

/-- The dialogue of a request asks at most four queries. -/
theorem Request.dialogue_within (request : Request) : request.dialogue.Within 4 := by
  by_cases asks : request.method = requestAccountsMethod
  · rw [dialogue_requestAccounts asks]
    refine .ask fun (known : List String) => ?_
    split
    · exact .ask fun _ => .ask fun _ => .ask fun _ => .done 0 _
    · exact .ask fun _ => .done 2 _
  · rw [dialogue, if_neg asks]
    split
    · exact .ask fun _ => .done 3 _
    · exact .ask fun _ => .done 3 _

/-! ## The dispatcher -/

/-- The tag under which a step may change what is parked. -/
def Step.tag? {σ : Type} : Step σ → Option String
  | .start tag _ | .resume tag | .cancel tag => some tag
  | .change _ => none

namespace System

variable {σ : Type}

/-- Unlocking an origin leaves the parked requests. -/
theorem calls_unlockIf (system : System σ) (held : Bool) (origin : String) :
    (system.unlockIf held origin).calls = system.calls := by
  cases held <;> rfl

/-- Dropping a request leaves those under other tags. -/
theorem get?_calls_cancel_of_other (system : System σ) {tag other : String} (apart : other ≠ tag) :
    ((system.cancel? tag).getD system).calls.get? other = system.calls.get? other := by
  unfold cancel?
  cases system.calls.get? tag with
  | none => rfl
  | some call =>
    simp only [Option.map_some, Option.getD_some, calls_unlockIf]
    exact (Members.get?_remove _ _ _).trans (if_neg apart)

/-- Settling a run leaves the requests under other tags. -/
theorem get?_calls_settle_of_other (system : System σ) {tag other : String} (apart : other ≠ tag)
    (request : Request) (held : Bool) (run : Run σ Json) :
    (system.settle tag request held run).system.calls.get? other = system.calls.get? other := by
  unfold settle
  cases run.progress with
  | ended outcome => exact congrArg (Members.get? · other) (calls_unlockIf ..)
  | parked query next =>
    refine (Members.get?_put _ _ _ _).trans ?_
    rw [if_neg apart]
    exact get?_calls_cancel_of_other { system with world := run.world } apart

/-- A step leaves the requests under other tags than its own. -/
theorem get?_calls_step_of_other (host : Host σ) (gate : Gate) (system : System σ) {step : Step σ}
    {tag : String} (apart : step.tag? ≠ some tag) :
    (system.step host gate step).system.calls.get? tag = system.calls.get? tag := by
  have other : ∀ {used}, step.tag? = some used → tag ≠ used := by
    rintro used same rfl
    exact apart same
  cases step with
  | start used request =>
    simp only [System.step, start]
    split
    · rfl
    · split
      · split
        · rfl
        · exact get?_calls_settle_of_other _ (other rfl) request _ _
      · exact get?_calls_settle_of_other _ (other rfl) request _ _
  | resume used =>
    simp only [System.step, resume?]
    cases system.calls.get? used with
    | none => rfl
    | some call =>
      refine (get?_calls_settle_of_other _ (other rfl) call.request _ _).trans ?_
      exact (Members.get?_remove _ _ _).trans (if_neg (other rfl))
  | cancel used => exact get?_calls_cancel_of_other system (other rfl)
  | change world => rfl

/-- A text that is handed in starts its request, or nothing happens but that it is answered. -/
theorem startText_eq_step (system : System σ) (host : Host σ) (gate : Gate) (tag text : String) :
    (∃ request : Request, request.StandsIn text ∧
        system.startText host gate tag text = system.step host gate (.start tag request)) ∨
      ∃ response, system.startText host gate tag text = ⟨system, some response, []⟩ := by
  unfold startText
  cases taken : Request.ofText text with
  | error response => exact .inr ⟨response, rfl⟩
  | ok request => exact .inl ⟨request, Request.ofText_eq_ok_iff.1 taken, rfl⟩

end System

/-- What a dispatcher replies after a run for a request: a response under the id of the request if
the run came to an end, and otherwise nothing, while the request waits under its tag. -/
inductive Replies {σ : Type} (tag : String) (request : Request) (progress : Progress Json)
    (reply : Reply σ) : Prop where
  /-- The run came to an end, or there was none. -/
  | answered (outcome : Except Error Json)
      (response : reply.response = some (.ofOutcome request.id outcome))
  /-- The run stopped at a query. -/
  | parked (call : Call) (silent : reply.response = none)
      (waits : reply.system.calls.get? tag = some call) (same : call.request = request)
      (reached : progress = .parked call.query call.next)

namespace System

variable {σ : Type}

/-- A run is settled by a response, or the request waits where the run stopped. -/
theorem replies_settle (system : System σ) (tag : String) (request : Request) (held : Bool)
    (run : Run σ Json) :
    Replies tag request run.progress (system.settle tag request held run) := by
  unfold settle
  cases progress : run.progress with
  | ended outcome => exact .answered outcome rfl
  | parked query next =>
    refine .parked ⟨request, held, query, next⟩ rfl ?_ rfl rfl
    exact (Members.get?_put _ _ _ _).trans (if_pos rfl)

/-- A request that is started is answered, or waits where its dialogue stopped. -/
theorem replies_start (system : System σ) (host : Host σ) (gate : Gate) (tag : String)
    (request : Request) :
    Replies tag request (request.dialogue.run host system.world).progress
      (system.start host gate tag request) := by
  unfold start
  cases gate.admit request with
  | error error => exact .answered (.error error) rfl
  | ok access =>
    simp only
    split
    · split
      · exact .answered (.error busyError) rfl
      · exact replies_settle ..
    · exact replies_settle ..

/-- A request that is resumed is answered, or waits where its dialogue stopped next. -/
theorem replies_resume? {system : System σ} {tag : String} {call : Call}
    (waits : system.calls.get? tag = some call) (host : Host σ) :
    ∃ reply, system.resume? host tag = some reply ∧
      Replies tag call.request (Dialogue.resume host system.world call.query call.next).progress
        reply := by
  rw [resume?, waits]
  exact ⟨_, rfl, replies_settle ..⟩

/-- A text that is answered at once is answered as it should be. -/
theorem answers_startText {system : System σ} {host : Host σ} {gate : Gate} {tag text : String}
    {response : Response}
    (answered : (system.startText host gate tag text).response = some response) :
    Answers text response := by
  simp only [startText] at answered
  split at answered
  · rename_i refused
    cases answered
    exact answers_of_ofText_error refused
  · rename_i request taken
    rcases system.replies_start host gate tag request with
      ⟨outcome, made⟩ | ⟨call, silent, -, -, -⟩
    · cases made.symm.trans answered
      exact answers_ofOutcome (Request.ofText_eq_ok_iff.1 taken) outcome
    · rw [silent] at answered
      contradiction

/-- A text that holds no request is answered at once, with nothing asked and nothing changed. -/
theorem startText_of_no_request (system : System σ) (host : Host σ) (gate : Gate) (tag : String)
    {text : String} (noRequest : ∀ request : Request, ¬ request.StandsIn text) :
    ∃ response, system.startText host gate tag text = ⟨system, some response, []⟩ := by
  rcases system.startText_eq_step host gate tag text with ⟨request, stands, -⟩ | refused
  · exact absurd stands (noRequest request)
  · exact refused

end System

/-- A text that was handed to a dispatcher under a tag and has not been answered yet, with how often
its request was resumed since. Meanwhile anything may happen that leaves alone what is parked under
the tag. -/
inductive Awaiting {σ : Type} (host : Host σ) (gate : Gate) (tag text : String)
    (start : System σ) : Nat → System σ → Prop where
  /-- The text was not answered at once. -/
  | handed (silent : (start.startText host gate tag text).response = none) :
    Awaiting host gate tag text start 0 (start.startText host gate tag text).system
  /-- Something else happened. -/
  | apart {resumed : Nat} {system : System σ} (step : Step σ)
      (awaiting : Awaiting host gate tag text start resumed system)
      (alone : (system.step host gate step).system.calls.get? tag = system.calls.get? tag) :
    Awaiting host gate tag text start resumed (system.step host gate step).system
  /-- The request was resumed and not answered. -/
  | resumed {resumed : Nat} {system : System σ} {reply : Reply σ}
      (awaiting : Awaiting host gate tag text start resumed system)
      (resume : system.resume? host tag = some reply) (silent : reply.response = none) :
    Awaiting host gate tag text start (resumed + 1) reply.system

section Awaiting

variable {σ : Type} {host : Host σ} {gate : Gate} {tag text : String} {start system : System σ}

/-- As long as a text is not answered, a call is parked that holds its request, and each time that
it was resumed there was one query less to ask. -/
theorem Awaiting.call {resumed : Nat}
    (awaiting : Awaiting host gate tag text start resumed system) :
    ∃ call, system.calls.get? tag = some call ∧ call.request.StandsIn text ∧
      ∃ left, resumed + left = 3 ∧ ∀ answer, (call.next answer).Within left := by
  induction awaiting with
  | handed silent =>
    rcases start.startText_eq_step host gate tag text with
      ⟨request, stands, started⟩ | ⟨response, refused⟩
    case inr =>
      rw [refused] at silent
      contradiction
    rw [started, System.step] at silent ⊢
    rcases start.replies_start host gate tag request with
      ⟨outcome, response⟩ | ⟨call, -, waits, rfl, reached⟩
    · rw [silent] at response
      contradiction
    · obtain ⟨less, four, within⟩ := call.request.dialogue_within.of_parked host _ reached
      exact ⟨call, waits, stands, less, by omega, within⟩
  | apart step awaiting alone ih =>
    rw [alone]
    exact ih
  | resumed awaiting resume silent ih =>
    obtain ⟨call, waits, stands, left, three, within⟩ := ih
    obtain ⟨reply, again, replies⟩ := System.replies_resume? waits host
    cases resume.symm.trans again
    rcases replies with ⟨outcome, response⟩ | ⟨next, -, waitsNext, same, reached⟩
    · rw [silent] at response
      contradiction
    · obtain ⟨less, one, behind⟩ := Dialogue.within_of_resume_parked within host _ reached
      rw [← same] at stands
      exact ⟨next, waitsNext, stands, less, by omega, behind⟩

/-- A text goes on waiting while something happens under another tag. -/
theorem Awaiting.step_of_other {resumed : Nat} {step : Step σ}
    (awaiting : Awaiting host gate tag text start resumed system) (other : step.tag? ≠ some tag) :
    Awaiting host gate tag text start resumed (system.step host gate step).system :=
  .apart step awaiting (system.get?_calls_step_of_other host gate other)

/-- A request that waits is answered as it should be when it is resumed, or it goes on waiting, and
the fourth time it is answered. -/
theorem Awaiting.answers_resume? {resumed : Nat}
    (awaiting : Awaiting host gate tag text start resumed system) :
    resumed ≤ 3 ∧ ∃ reply, system.resume? host tag = some reply ∧
      (resumed = 3 → ∃ response, reply.response = some response) ∧
      ∀ response, reply.response = some response → Answers text response := by
  obtain ⟨call, waits, stands, left, three, within⟩ := awaiting.call
  obtain ⟨reply, resume, replies⟩ := System.replies_resume? waits host
  refine ⟨by omega, reply, resume, ?_⟩
  rcases replies with ⟨outcome, made⟩ | ⟨next, silent, -, -, reached⟩
  · refine ⟨fun _ => ⟨_, made⟩, fun response answered => ?_⟩
    cases made.symm.trans answered
    exact answers_ofOutcome stands outcome
  · obtain ⟨less, one, -⟩ := Dialogue.within_of_resume_parked within host _ reached
    refine ⟨fun last => by omega, fun response answered => ?_⟩
    rw [silent] at answered
    contradiction

end Awaiting

/-- Every text is answered under its id. What is answered at once is answered as it should be; a
text that holds no request is answered at once, with nothing asked and nothing changed; and a
request that has to wait is answered as it should be, when it is resumed for the fourth time at the
latest, whatever happens to other requests meanwhile. -/
theorem text_answered_under_id {σ : Type} (host : Host σ) (gate : Gate) (world : σ)
    (steps : List (Step σ)) (tag text : String) :
    let system := System.after host gate world steps
    let reply := system.startText host gate tag text
    (∀ response, reply.response = some response → Answers text response) ∧
      ((∀ request : Request, ¬ request.StandsIn text) →
        reply.system = system ∧ reply.asked = [] ∧ ∃ response, reply.response = some response) ∧
      ∀ resumed later, Awaiting host gate tag text system resumed later →
        resumed ≤ 3 ∧ ∃ reply, later.resume? host tag = some reply ∧
          (resumed = 3 → ∃ response, reply.response = some response) ∧
          ∀ response, reply.response = some response → Answers text response := by
  intro system reply
  refine ⟨fun response answered => System.answers_startText answered, fun noRequest => ?_,
    fun resumed later awaiting => awaiting.answers_resume?⟩
  obtain ⟨response, same⟩ := system.startText_of_no_request host gate tag noRequest
  have answered : reply = ⟨system, some response, []⟩ := same
  rw [answered]
  exact ⟨rfl, rfl, response, rfl⟩

/-- An id that is given twice, and a rival while the request waits: the rival is turned away, and
after the second resumption the answer comes under the last id. -/
theorem text_answered_under_id_of_repeated :
    let host : Host Unit := ⟨fun _ _ => true, fun _ query => (match query with
      | .accounts .. => .ok ["0xaa"]
      | .unlock _ => .ok ()
      | _ => .error busyError, ())⟩
    let text := "\x7b\"id\":1,\"method\":\"eth_requestAccounts\",\"jsonrpc\":\"2.0\"," ++
      "\"x\":[],\"origin\":\"o\",\"id\":\"b\"\x7d"
    let rival : Step Unit := .start "b" { id := .null, method := requestAccountsMethod, origin := "o" }
    let response : Response := .success (.string "b") (.ofStrings ["0xaa"])
    let waiting := (System.initial ()).startText host .standard "a" text
    let refused := waiting.system.step host .standard rival
    ∃ again last, refused.system.resume? host "a" = some again ∧
      again.system.resume? host "a" = some last ∧
      refused.response = some (.failure .null busyError) ∧ last.response = some response ∧
      Answers text response := by
  intro host text rival response waiting refused
  let request : Request := { id := .string "b", method := requestAccountsMethod, origin := "o" }
  have taken : Request.ofText text = .ok request :=
    toOption_eq_some_iff.1 (by decide +kernel)
  have started : waiting = (System.initial ()).start host .standard "a" request := by
    simp only [waiting, System.startText, taken]
  obtain ⟨-, -, answered⟩ := text_answered_under_id host .standard () [] "a" text
  have silent : waiting.response = none := by
    rw [started]
    decide +kernel
  have handed : Awaiting host .standard "a" text (.initial ()) 0 refused.system :=
    (Awaiting.handed silent).step_of_other (by decide)
  obtain ⟨-, again, resumed, -, -⟩ := answered 0 _ handed
  have silentAgain : (refused.system.resume? host "a").map (·.response) = some none := by
    simp only [refused, started]
    decide +kernel
  rw [resumed] at silentAgain
  have awaiting := handed.resumed resumed (Option.some.inj silentAgain)
  obtain ⟨-, last, resumedLast, -, answers⟩ := answered 1 _ awaiting
  have whole : ((refused.system.resume? host "a").bind fun again =>
      (again.system.resume? host "a").map (·.response)) = some (some response) := by
    simp only [refused, started]
    decide +kernel
  rw [resumed, Option.bind_some, resumedLast] at whole
  have outcome : last.response = some response := Option.some.inj whole
  have turnedAway : refused.response = some (.failure .null busyError) := by
    simp only [refused, started]
    decide +kernel
  exact ⟨again, last, resumed, resumedLast, turnedAway, outcome, answers response outcome⟩

end WalletCore.Rpc
