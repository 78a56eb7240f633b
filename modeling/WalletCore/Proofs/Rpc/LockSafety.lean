import WalletCore.Proofs.Rpc.AccountsDialogue
import WalletCore.Proofs.Rpc.Soundness

/-! # Safety of locks

After any steps whatever, an origin is locked exactly while a request for its accounts is in flight,
and such a request is alone. So no exit of a request leaves a lock behind, be it an answer, an error
of any query or a cancellation at any query, and the next request of the origin is admitted.
-/
namespace WalletCore.Rpc

/-- Whether a request for the accounts of an origin is in flight. -/
def AccountsInFlight (log : List Entry) (number : Nat) (origin : String) : Prop :=
  ∃ request, InFlight log number request ∧ request.method = requestAccountsMethod ∧
    request.origin = origin

/-- A request needs the lock of its origin exactly if it is a request for accounts. -/
theorem Request.needsLock_iff (request : Request) :
    request.needsLock = true ↔ request.method = requestAccountsMethod := decide_eq_true_iff

/-- Every gate lets requests for accounts through. -/
theorem Gate.check_requestAccounts (gate : Gate) :
    gate.check requestAccountsMethod = .ok .unrestricted := by
  have unrestricted : Permission.Method.isUnrestricted requestAccountsMethod = true := by
    decide +kernel
  rw [check, classify?, if_pos unrestricted]
  rfl

/-- A well-formed request for accounts passes every check. -/
theorem Gate.admit_requestAccounts (gate : Gate) {request : Request}
    (version : request.version = protocolVersion) (named : request.origin ≠ "")
    (asks : request.method = requestAccountsMethod) :
    gate.admit request = .ok .unrestricted := by
  have notEmpty : request.origin.isEmpty = false := by
    simpa [String.isEmpty_iff] using named
  unfold Gate.admit
  rw [if_neg (by simp [version]), if_neg (by simp [notEmpty]), asks,
    check_requestAccounts]

/-- The reply to a run that is settled reports what the run asked. -/
theorem System.asked_settle {σ : Type} (system : System σ) (tag : String) (request : Request)
    (held : Bool) (run : Run σ Json) :
    (system.settle tag request held run).asked = run.asked := by
  unfold settle
  cases run.progress <;> rfl

/-- A well-formed request for accounts of an origin that is not locked is admitted: it is written
down as such, and asks its first query at once. -/
theorem History.start_requestAccounts {σ : Type} (history : History σ) (host : Host σ)
    (gate : Gate) (tag : String) {request : Request} (version : request.version = protocolVersion)
    (named : request.origin ≠ "") (asks : request.method = requestAccountsMethod)
    (free : request.origin ∉ history.system.locks.origins) :
    ⟨history.started, request, .admitted⟩ ∈ (history.start host gate tag request).log ∧
      ∃ rest, (history.system.start host gate tag request).asked =
        .accounts request.origin true :: rest := by
  have needs := request.needsLock_iff.2 asks
  obtain ⟨locks, locked⟩ : ∃ locks, history.system.locks.acquire? request.origin = some locks := by
    refine Option.ne_none_iff_exists'.1 fun refused => ?_
    exact free (LockSet.acquire?_eq_none_iff.1 refused)
  constructor
  · have admitted : Entry.mk history.started request .admitted ∈
        (history.accept request locks).log :=
      List.mem_append_right _ (List.mem_singleton_self _)
    have kept := History.log_settle (history.accept request locks) tag history.started request
      request.needsLock (request.dialogue.run host history.system.world)
      (request.dialogue.events host history.system.world)
    simp only [History.start, gate.admit_requestAccounts version named asks, Request.lockIn?,
      needs, ↓reduceIte, locked] at kept ⊢
    exact kept.subset admitted
  · simp only [System.start, gate.admit_requestAccounts version named asks, needs, ↓reduceIte,
      locked, System.asked_settle, Request.dialogue_requestAccounts asks]
    exact Dialogue.asked_run_ask host history.system.world _ _

/-- The requests of one origin that are in flight for its accounts are those that hold its lock. -/
theorem accountsInFlight_iff {log : List Entry} {origin : String} :
    (∃ number, AccountsInFlight log number origin) ↔
      ∃ number request, InFlight log number request ∧ request.needsLock = true ∧
        request.origin = origin := by
  simp only [AccountsInFlight, Request.needsLock_iff]

/-- Lock safety: after any steps the locked origins are those of the requests for accounts that are
in flight, which are parked, and of which no two share an origin; and where an origin has none in
flight, its next well-formed request for accounts is admitted. -/
theorem locked_iff_accounts_in_flight {σ : Type} (host : Host σ) (gate : Gate) (world : σ)
    (steps : List (Step σ)) :
    (History.after host gate world steps).system = System.after host gate world steps ∧
    (∀ origin, origin ∈ (System.after host gate world steps).locks.origins ↔
      ∃ number, AccountsInFlight (History.after host gate world steps).log number origin) ∧
    (∀ origin, origin ∈ (System.after host gate world steps).locks.origins ↔
      ∃ tag call, (System.after host gate world steps).calls.get? tag = some call ∧
        call.request.method = requestAccountsMethod ∧ call.request.origin = origin) ∧
    (∀ origin first second,
      AccountsInFlight (History.after host gate world steps).log first origin →
      AccountsInFlight (History.after host gate world steps).log second origin →
      first = second) ∧
    (∀ request tag, request.version = protocolVersion → request.origin ≠ "" →
      request.method = requestAccountsMethod →
      (∀ number,
        ¬ AccountsInFlight (History.after host gate world steps).log number request.origin) →
      ⟨(History.after host gate world steps).started, request, .admitted⟩ ∈
          (History.after host gate world (steps ++ [.start tag request])).log ∧
        ∃ rest, ((System.after host gate world steps).start host gate tag request).asked =
          .accounts request.origin true :: rest) := by
  have sound := Sound.sound_after host gate world steps
  have same := History.system_after host gate world steps
  have locked : ∀ origin, origin ∈ (System.after host gate world steps).locks.origins ↔
      ∃ number, AccountsInFlight (History.after host gate world steps).log number origin := by
    intro origin
    rw [accountsInFlight_iff, ← sound.disciplined.locked_iff, same]
  have parked : ∀ origin, origin ∈ (System.after host gate world steps).locks.origins ↔
      ∃ tag call, (System.after host gate world steps).calls.get? tag = some call ∧
        call.request.method = requestAccountsMethod ∧ call.request.origin = origin := by
    intro origin
    rw [← same, sound.disciplined.locked_iff]
    simp only [sound.inFlight_iff, Request.needsLock_iff]
    constructor
    · rintro ⟨number, request, ⟨tag, call, found, -, rfl⟩, rest⟩
      exact ⟨tag, call, found, rest⟩
    · rintro ⟨tag, call, found, rest⟩
      exact ⟨_, call.request, ⟨tag, call, found, rfl, rfl⟩, rest⟩
  have alone : ∀ origin first second,
      AccountsInFlight (History.after host gate world steps).log first origin →
      AccountsInFlight (History.after host gate world steps).log second origin →
      first = second := by
    intro origin first second firstHolds secondHolds
    obtain ⟨firstRequest, firstRuns, firstAsks, rfl⟩ := firstHolds
    obtain ⟨secondRequest, secondRuns, secondAsks, shared⟩ := secondHolds
    have firstNeeds := (Request.needsLock_iff _).2 firstAsks
    have secondNeeds := (Request.needsLock_iff _).2 secondAsks
    exact sound.disciplined.alone firstRuns secondRuns firstNeeds secondNeeds shared.symm
  refine ⟨same, locked, parked, alone, ?_⟩
  intro request tag version named asks none
  have free : request.origin ∉ (History.after host gate world steps).system.locks.origins := by
    intro held
    rw [same, locked] at held
    obtain ⟨number, running⟩ := held
    exact none number running
  have started := History.start_requestAccounts _ host gate tag version named asks free
  rw [same] at started
  obtain ⟨admitted, asked⟩ := started
  have logged : (History.after host gate world (steps ++ [.start tag request])).log =
      ((History.after host gate world steps).start host gate tag request).log := by
    rw [History.after, List.foldl_append]
    rfl
  rw [logged]
  exact ⟨admitted, asked⟩

/-- Of two origins whose requests wait in their first query, the one whose request is dropped is
unlocked and its next request is admitted, while the other one stays locked. -/
theorem locked_iff_accounts_in_flight_after_cancel :
    let host : Host Unit := ⟨fun _ _ => true, fun _ _ => (.error busyError, ())⟩
    let kept : Request :=
      { id := .null, method := requestAccountsMethod, origin := "https://a.example" }
    let dropped : Request :=
      { id := .null, method := requestAccountsMethod, origin := "https://b.example" }
    let system := System.after host .standard ()
      [.start "a" kept, .start "b" dropped, .cancel "b"]
    kept.origin ∈ system.locks.origins ∧ dropped.origin ∉ system.locks.origins ∧
      ∃ rest, (system.start host .standard "c" dropped).asked =
        .accounts dropped.origin true :: rest := by
  intro host kept dropped system
  obtain ⟨-, locked, parked, -, next⟩ := locked_iff_accounts_in_flight host .standard ()
    [.start "a" kept, .start "b" dropped, .cancel "b"]
  have unlocked : dropped.origin ∉ system.locks.origins := by decide +kernel
  refine ⟨(parked kept.origin).2 ⟨"a", _, rfl, rfl, rfl⟩, unlocked, ?_⟩
  refine (next dropped "c" rfl (by decide) rfl fun number running => ?_).2
  exact unlocked ((locked dropped.origin).2 ⟨number, running⟩)

end WalletCore.Rpc
