import WalletCore.Proofs.Rpc.Course

/-! # The discipline of locks

The log of a dispatcher lists what happened to its requests, each under the number that the request
got when it was started. A log is disciplined if it grows by five moves only: a request is refused,
a request is admitted and takes the lock of its origin if it needs it, a request in flight asks or
is answered, or a request in flight ends and gives its lock back.

For every disciplined log the locked origins are those of the requests in flight that need a lock
(`Disciplined.locked_iff`), no two of which share an origin (`Disciplined.alone`), and two such
requests of one origin never interleave (`Disciplined.serial`). Nothing here depends on hosts, tags
or dialogues.
-/
namespace WalletCore.Rpc

namespace LockSet

/-- An origin can be locked exactly if it is not, and is the only one that is locked thereby. -/
theorem acquire?_eq_some_iff {locks taken : LockSet} {origin : String} :
    locks.acquire? origin = some taken ↔
      origin ∉ locks.origins ∧ taken.origins = origin :: locks.origins := by
  unfold acquire?
  split
  · rename_i locked
    simp [locked]
  · rename_i free
    constructor
    · intro acquired
      rw [← Option.some.inj acquired]
      exact ⟨free, rfl⟩
    · rintro ⟨-, same⟩
      cases taken
      simp_all

/-- An origin that is not locked can be locked. -/
theorem acquire?_eq_none_iff {locks : LockSet} {origin : String} :
    locks.acquire? origin = none ↔ origin ∈ locks.origins := by
  unfold acquire?
  split
  · rename_i locked
    simp [locked]
  · rename_i free
    simp [free]

/-- Unlocking an origin leaves the others locked. -/
theorem mem_release {locks : LockSet} {origin other : String} :
    other ∈ (locks.release origin).origins ↔ other ∈ locks.origins ∧ other ≠ origin := by
  rw [release, locks.nodup.mem_erase_iff]
  exact and_comm

end LockSet

namespace Request

/-- The locks after a request took the lock of its origin, if it needs it and can have it. -/
def lockIn? (request : Request) (locks : LockSet) : Option LockSet :=
  if request.needsLock then locks.acquire? request.origin else some locks

/-- The locks after a request gave back the lock of its origin, if it needed it. -/
def unlockIn (request : Request) (locks : LockSet) : LockSet :=
  if request.needsLock then locks.release request.origin else locks

/-- What a request that took its lock changed. -/
theorem mem_of_lockIn? {request : Request} {locks taken : LockSet} {origin : String}
    (locked : request.lockIn? locks = some taken) :
    origin ∈ taken.origins ↔
      origin ∈ locks.origins ∨ (request.needsLock = true ∧ request.origin = origin) := by
  unfold lockIn? at locked
  cases needs : request.needsLock with
  | true =>
    rw [if_pos needs] at locked
    rw [(LockSet.acquire?_eq_some_iff.1 locked).2, List.mem_cons, or_comm, eq_comm]
    simp
  | false =>
    rw [if_neg (by simp [needs])] at locked
    simp [Option.some.inj locked]

/-- A request that took its lock found its origin unlocked. -/
theorem free_of_lockIn? {request : Request} {locks taken : LockSet}
    (locked : request.lockIn? locks = some taken) (needs : request.needsLock = true) :
    request.origin ∉ locks.origins := by
  rw [lockIn?, if_pos needs] at locked
  exact (LockSet.acquire?_eq_some_iff.1 locked).1

/-- What a request that gave back its lock changed. -/
theorem mem_unlockIn {request : Request} {locks : LockSet} {origin : String} :
    origin ∈ (request.unlockIn locks).origins ↔
      origin ∈ locks.origins ∧ (request.needsLock = true → origin ≠ request.origin) := by
  unfold unlockIn
  split
  · rename_i needs
    simp [LockSet.mem_release, needs]
  · rename_i free
    simp [free]

end Request

/-- An event of one of the requests. -/
structure Entry where
  /-- The number of the request: how many were started before it. -/
  number : Nat
  /-- The request. -/
  request : Request
  /-- What happened. -/
  event : Event

/-- Whether a request was admitted and is neither answered nor dropped. -/
def InFlight (log : List Entry) (number : Nat) (request : Request) : Prop :=
  ⟨number, request, .admitted⟩ ∈ log ∧
    ∀ entry ∈ log, entry.number = number → entry.event.isEnd = false

/-- Whether two entries belong to requests that need one and the same lock. -/
def Entry.Rivals (first second : Entry) : Prop :=
  first.request.needsLock = true ∧ second.request.needsLock = true ∧
    first.request.origin = second.request.origin

/-- The logs that the discipline permits, with the number of requests that were started and the
locks that are held after them. -/
inductive Disciplined : Nat → LockSet → List Entry → Prop where
  /-- Nothing has happened. -/
  | nothing : Disciplined 0 .empty []
  /-- A request is refused. -/
  | refused {started : Nat} {locks : LockSet} {log : List Entry} (request : Request)
      (response : Response) (before : Disciplined started locks log) :
    Disciplined (started + 1) locks (log ++ [⟨started, request, .responded response⟩])
  /-- A request is admitted. -/
  | admitted {started : Nat} {locks taken : LockSet} {log : List Entry} {request : Request}
      (locked : request.lockIn? locks = some taken) (before : Disciplined started locks log) :
    Disciplined (started + 1) taken (log ++ [⟨started, request, .admitted⟩])
  /-- A request in flight asks, or is answered. -/
  | exchanged {started number : Nat} {locks : LockSet} {log : List Entry} {request : Request}
      {event : Event} (running : InFlight log number request) (exchange : event.isExchange = true)
      (before : Disciplined started locks log) :
    Disciplined started locks (log ++ [⟨number, request, event⟩])
  /-- A request in flight ends. -/
  | ended {started number : Nat} {locks : LockSet} {log : List Entry} {request : Request}
      {event : Event} (running : InFlight log number request) (last : event.isEnd = true)
      (before : Disciplined started locks log) :
    Disciplined started (request.unlockIn locks) (log ++ [⟨number, request, event⟩])

/-- What one more entry means for the requests in flight. -/
theorem inFlight_append {log : List Entry} {entry : Entry} {number : Nat} {request : Request} :
    InFlight (log ++ [entry]) number request ↔
      (⟨number, request, .admitted⟩ ∈ log ∨ entry = ⟨number, request, .admitted⟩) ∧
        (∀ former ∈ log, former.number = number → former.event.isEnd = false) ∧
        (entry.number = number → entry.event.isEnd = false) := by
  simp only [InFlight, List.mem_append, List.mem_singleton, or_imp, forall_and, forall_eq]
  rw [eq_comm (a := entry)]

/-- An exchange leaves the same requests in flight. -/
theorem inFlight_append_exchange {log : List Entry} (running : Nat) (asking : Request)
    {event : Event} (exchange : event.isExchange = true) {number : Nat} {request : Request} :
    InFlight (log ++ [⟨running, asking, event⟩]) number request ↔ InFlight log number request := by
  have notAdmission : Entry.mk running asking event ≠ ⟨number, request, .admitted⟩ := by
    intro same
    cases same
    contradiction
  rw [inFlight_append]
  simp [notAdmission, Event.isEnd_of_isExchange exchange, InFlight]

/-- An end takes one request out of flight. -/
theorem inFlight_append_end {log : List Entry} (running : Nat) (ending : Request) {event : Event}
    (last : event.isEnd = true) {number : Nat} {request : Request} :
    InFlight (log ++ [⟨running, ending, event⟩]) number request ↔
      InFlight log number request ∧ number ≠ running := by
  have notAdmission : Entry.mk running ending event ≠ ⟨number, request, .admitted⟩ := by
    intro same
    cases same
    contradiction
  rw [inFlight_append]
  simp [notAdmission, last, InFlight, and_assoc, ne_comm (a := number)]

namespace Disciplined

variable {started : Nat} {locks : LockSet} {log : List Entry}

/-- Every number was given out. -/
theorem number_lt (disciplined : Disciplined started locks log) :
    ∀ entry ∈ log, entry.number < started := by
  induction disciplined with
  | nothing => simp
  | refused request response _ ih =>
    refine List.forall_mem_append.2 ⟨fun entry member => ?_, ?_⟩
    · exact Nat.lt_succ_of_lt (ih entry member)
    · exact List.forall_mem_singleton.2 (Nat.lt_succ_self _)
  | admitted locked _ ih =>
    refine List.forall_mem_append.2 ⟨fun entry member => ?_, ?_⟩
    · exact Nat.lt_succ_of_lt (ih entry member)
    · exact List.forall_mem_singleton.2 (Nat.lt_succ_self _)
  | exchanged running exchange _ ih =>
    have given := ih _ running.1
    exact List.forall_mem_append.2 ⟨ih, List.forall_mem_singleton.2 given⟩
  | ended running last _ ih =>
    have given := ih _ running.1
    exact List.forall_mem_append.2 ⟨ih, List.forall_mem_singleton.2 given⟩

/-- A number that was not given out belongs to no request in flight. -/
theorem not_inFlight_started (disciplined : Disciplined started locks log) (request : Request) :
    ¬ InFlight log started request :=
  fun running => Nat.lt_irrefl _ (disciplined.number_lt _ running.1)

/-- A refusal leaves the same requests in flight. -/
theorem inFlight_refused (disciplined : Disciplined started locks log) (refused : Request)
    (response : Response) {number : Nat} {request : Request} :
    InFlight (log ++ [⟨started, refused, .responded response⟩]) number request ↔
      InFlight log number request := by
  rw [inFlight_append_end started refused rfl]
  constructor
  · exact fun both => both.1
  · intro running
    have apart : number ≠ started := by
      intro same
      rw [same] at running
      exact disciplined.not_inFlight_started request running
    exact ⟨running, apart⟩

/-- An admission puts one request into flight. -/
theorem inFlight_admitted (disciplined : Disciplined started locks log) (new : Request)
    {number : Nat} {request : Request} :
    InFlight (log ++ [⟨started, new, .admitted⟩]) number request ↔
      InFlight log number request ∨ (number = started ∧ request = new) := by
  have fresh : ∀ entry ∈ log, entry.number ≠ started := by
    intro entry member
    exact Nat.ne_of_lt (disciplined.number_lt entry member)
  rw [inFlight_append]
  constructor
  · rintro ⟨former | here, unended, -⟩
    · exact .inl ⟨former, unended⟩
    · cases here
      exact .inr ⟨rfl, rfl⟩
  · rintro (⟨former, unended⟩ | ⟨rfl, rfl⟩)
    · exact ⟨.inl former, unended, fun _ => rfl⟩
    · exact ⟨.inr rfl, fun entry member same => absurd same (fresh entry member), fun _ => rfl⟩

/-- A number belongs to one request only. -/
theorem same_request (disciplined : Disciplined started locks log) :
    ∀ first ∈ log, ∀ second ∈ log, first.number = second.number →
      first.request = second.request := by
  -- An entry with a new number meets no earlier one, and an entry of a request in flight has the
  -- number and the request of the entry of its admission.
  have extended : ∀ {log : List Entry} {entry : Entry},
      (∀ first ∈ log, ∀ second ∈ log, first.number = second.number →
        first.request = second.request) →
      (∀ former ∈ log, former.number = entry.number → former.request = entry.request) →
      ∀ first ∈ log ++ [entry], ∀ second ∈ log ++ [entry], first.number = second.number →
        first.request = second.request := by
    intro log entry formers new first firstMember second secondMember same
    rcases List.mem_append.1 firstMember with first_former | first_new
    · rcases List.mem_append.1 secondMember with second_former | second_new
      · exact formers first first_former second second_former same
      · rw [List.mem_singleton.1 second_new] at same ⊢
        exact new first first_former same
    · rw [List.mem_singleton.1 first_new] at same ⊢
      rcases List.mem_append.1 secondMember with second_former | second_new
      · exact (new second second_former same.symm).symm
      · rw [List.mem_singleton.1 second_new]
  induction disciplined with
  | nothing => simp
  | refused request response before ih =>
    exact extended ih fun former member same =>
      absurd same (Nat.ne_of_lt (before.number_lt former member))
  | admitted locked before ih =>
    exact extended ih fun former member same =>
      absurd same (Nat.ne_of_lt (before.number_lt former member))
  | exchanged running exchange before ih =>
    apply extended ih
    intro former member same
    have admission := ih former member _ running.1
    exact admission same
  | ended running last before ih =>
    apply extended ih
    intro former member same
    have admission := ih former member _ running.1
    exact admission same

/-- The requests in flight that need a lock hold exactly the locks that are held, each its own. -/
theorem holders (disciplined : Disciplined started locks log) :
    (∀ origin, origin ∈ locks.origins ↔
      ∃ number request, InFlight log number request ∧ request.needsLock = true ∧
        request.origin = origin) ∧
    (∀ first firstRequest second secondRequest, InFlight log first firstRequest →
      InFlight log second secondRequest → firstRequest.needsLock = true →
      secondRequest.needsLock = true → firstRequest.origin = secondRequest.origin →
      first = second) := by
  induction disciplined with
  | nothing => simp [InFlight, LockSet.empty]
  | refused request response before ih =>
    simp only [before.inFlight_refused]
    exact ih
  | @admitted started locks taken log new locked before ih =>
    obtain ⟨held, alone⟩ := ih
    -- Nobody in flight has the origin of the new request if that needs the lock.
    have free : ∀ number request, InFlight log number request → request.needsLock = true →
        new.needsLock = true → request.origin ≠ new.origin := by
      intro number request running needs newNeeds same
      apply Request.free_of_lockIn? locked newNeeds
      exact (held new.origin).2 ⟨number, request, running, needs, same⟩
    simp only [before.inFlight_admitted]
    constructor
    · intro origin
      rw [Request.mem_of_lockIn? locked, held]
      constructor
      · rintro (⟨number, request, running, rest⟩ | needed)
        · exact ⟨number, request, .inl running, rest⟩
        · exact ⟨started, new, .inr ⟨rfl, rfl⟩, needed⟩
      · rintro ⟨number, request, running | ⟨rfl, rfl⟩, rest⟩
        · exact .inl ⟨number, request, running, rest⟩
        · exact .inr rest
    · rintro first firstRequest second secondRequest (firstRuns | ⟨rfl, rfl⟩)
        (secondRuns | ⟨rfl, rfl⟩) firstNeeds secondNeeds same
      · exact alone first firstRequest second secondRequest firstRuns secondRuns firstNeeds
          secondNeeds same
      · exact absurd same (free first firstRequest firstRuns firstNeeds secondNeeds)
      · exact absurd same.symm (free second secondRequest secondRuns secondNeeds firstNeeds)
      · rfl
  | exchanged running exchange before ih =>
    simp only [inFlight_append_exchange _ _ exchange]
    exact ih
  | @ended started number locks log request event running last before ih =>
    obtain ⟨held, alone⟩ := ih
    simp only [inFlight_append_end number request last]
    constructor
    · intro origin
      rw [Request.mem_unlockIn, held]
      constructor
      · rintro ⟨⟨other, otherRequest, otherRuns, needs, rfl⟩, apart⟩
        have different : other ≠ number := by
          intro here
          have same : request = otherRequest :=
            before.same_request _ running.1 _ otherRuns.1 here.symm
          rw [same] at apart
          exact apart needs rfl
        exact ⟨other, otherRequest, ⟨otherRuns, different⟩, needs, rfl⟩
      · rintro ⟨other, otherRequest, ⟨otherRuns, different⟩, needs, rfl⟩
        have apart : request.needsLock = true → otherRequest.origin ≠ request.origin := by
          intro endedNeeds same
          apply different
          exact alone other otherRequest number request otherRuns running needs endedNeeds same
        exact ⟨⟨other, otherRequest, otherRuns, needs, rfl⟩, apart⟩
    · intro first firstRequest second secondRequest firstRuns secondRuns
      exact alone first firstRequest second secondRequest firstRuns.1 secondRuns.1

/-- An origin is locked exactly if a request of it that needs the lock is in flight. -/
theorem locked_iff (disciplined : Disciplined started locks log) (origin : String) :
    origin ∈ locks.origins ↔
      ∃ number request, InFlight log number request ∧ request.needsLock = true ∧
        request.origin = origin :=
  disciplined.holders.1 origin

/-- No two requests in flight hold the lock of one origin. -/
theorem alone (disciplined : Disciplined started locks log) {first second : Nat}
    {firstRequest secondRequest : Request} (firstRuns : InFlight log first firstRequest)
    (secondRuns : InFlight log second secondRequest) (firstNeeds : firstRequest.needsLock = true)
    (secondNeeds : secondRequest.needsLock = true)
    (same : firstRequest.origin = secondRequest.origin) : first = second :=
  disciplined.holders.2 first firstRequest second secondRequest firstRuns secondRuns firstNeeds
    secondNeeds same

/-- What a request does while it holds a lock comes after all that was done under that lock. -/
theorem latest (disciplined : Disciplined started locks log) :
    ∀ number request, InFlight log number request →
      ∀ entry ∈ log, entry.event.isResponse = false → entry.Rivals ⟨number, request, .admitted⟩ →
        entry.number ≤ number := by
  induction disciplined with
  | nothing => simp
  | refused request response before ih =>
    intro number other running
    have ran := (before.inFlight_refused request response).1 running
    refine List.forall_mem_append.2 ⟨ih number other ran, ?_⟩
    exact List.forall_mem_singleton.2 fun work => by contradiction
  | @admitted started locks taken log new locked before ih =>
    intro number request running
    rcases (before.inFlight_admitted new).1 running with ran | ⟨rfl, rfl⟩
    · refine List.forall_mem_append.2 ⟨ih number request ran, ?_⟩
      refine List.forall_mem_singleton.2 fun _ rivals => ?_
      obtain ⟨newNeeds, needs, same⟩ := rivals
      refine absurd ?_ (Request.free_of_lockIn? locked newNeeds)
      exact (before.locked_iff _).2 ⟨number, request, ran, needs, same.symm⟩
    · refine List.forall_mem_append.2 ⟨fun entry member _ _ => ?_, ?_⟩
      · exact Nat.le_of_lt (before.number_lt entry member)
      · exact List.forall_mem_singleton.2 fun _ _ => Nat.le_refl _
  | exchanged running exchange before ih =>
    intro number request other
    have ran := (inFlight_append_exchange _ _ exchange).1 other
    refine List.forall_mem_append.2 ⟨ih number request ran, ?_⟩
    refine List.forall_mem_singleton.2 fun _ rivals => ?_
    exact Nat.le_of_eq (before.alone running ran rivals.1 rivals.2.1 rivals.2.2)
  | ended running last before ih =>
    intro number request other
    have ran := ((inFlight_append_end _ _ last).1 other).1
    refine List.forall_mem_append.2 ⟨ih number request ran, ?_⟩
    refine List.forall_mem_singleton.2 fun _ rivals => ?_
    exact Nat.le_of_eq (before.alone running ran rivals.1 rivals.2.1 rivals.2.2)

/-- What is done under one lock is done by one request after the other. -/
theorem serial (disciplined : Disciplined started locks log) :
    log.Pairwise fun first second => first.event.isResponse = false →
      second.event.isResponse = false → first.Rivals second → first.number ≤ second.number := by
  induction disciplined with
  | nothing => exact .nil
  | refused request response before ih =>
    refine List.pairwise_append.2 ⟨ih, List.pairwise_singleton .., fun first member => ?_⟩
    exact List.forall_mem_singleton.2 fun _ work => by contradiction
  | admitted locked before ih =>
    refine List.pairwise_append.2 ⟨ih, List.pairwise_singleton .., fun first member => ?_⟩
    refine List.forall_mem_singleton.2 fun _ _ _ => ?_
    exact Nat.le_of_lt (before.number_lt first member)
  | exchanged running exchange before ih =>
    refine List.pairwise_append.2 ⟨ih, List.pairwise_singleton .., fun first member => ?_⟩
    refine List.forall_mem_singleton.2 fun work _ rivals => ?_
    exact before.latest _ _ running first member work rivals
  | ended running last before ih =>
    refine List.pairwise_append.2 ⟨ih, List.pairwise_singleton .., fun first member => ?_⟩
    refine List.forall_mem_singleton.2 fun work _ rivals => ?_
    exact before.latest _ _ running first member work rivals

end Disciplined

end WalletCore.Rpc
