import WalletCore.Proofs.Rpc.LockSafety

/-! # Duplicates are inert

A second request for the accounts of an origin that is locked is turned away at once: nothing is
asked, and the dispatcher stays as it was (`System.step_duplicate`). So two runs that differ only in
such requests cannot be told apart by anybody else: each original step is replied to in the same way
and leaves the same dispatcher, and the same queries are asked (`Inserts.same_run`).
-/
namespace WalletCore.Rpc

variable {σ : Type} {host : Host σ} {gate : Gate} {system : System σ}

/-- A well-formed request for the accounts of an origin that is locked. -/
structure Duplicate (system : System σ) (request : Request) : Prop where
  /-- The version is that of the protocol. -/
  version : request.version = protocolVersion
  /-- The origin is named. -/
  named : request.origin ≠ ""
  /-- The request asks for accounts. -/
  asks : request.method = requestAccountsMethod
  /-- The origin is locked. -/
  locked : request.origin ∈ system.locks.origins

/-- A duplicate is turned away, nothing is asked, and nothing changes. -/
theorem System.step_duplicate {request : Request} (duplicate : Duplicate system request)
    (tag : String) :
    system.step host gate (.start tag request) =
      ⟨system, some (.failure request.id busyError), []⟩ := by
  have admitted := gate.admit_requestAccounts duplicate.version duplicate.named duplicate.asks
  have needs := request.needsLock_iff.2 duplicate.asks
  have refused := LockSet.acquire?_eq_none_iff.2 duplicate.locked
  simp only [step, start, admitted, needs, ↓reduceIte, refused]

/-- What happens to a dispatcher, with the duplicates told apart from everything else. -/
inductive Move (σ : Type) where
  /-- A step of the run without duplicates. -/
  | original (step : Step σ)
  /-- A duplicate is started. -/
  | duplicate (tag : String) (request : Request)

namespace Move

/-- The step that is taken. -/
def step : Move σ → Step σ
  | original step => step
  | duplicate tag request => .start tag request

/-- The step of the run without duplicates, if there is one. -/
def original? : Move σ → Option (Step σ)
  | original step => some step
  | duplicate .. => none

end Move

/-- Whether the duplicates among some moves are duplicates where they are started. -/
inductive Inserts (host : Host σ) (gate : Gate) : System σ → List (Move σ) → Prop where
  /-- Nothing happens. -/
  | nil (system : System σ) : Inserts host gate system []
  /-- A step of the run without duplicates. -/
  | original {system : System σ} {step : Step σ} {rest : List (Move σ)}
      (later : Inserts host gate (system.step host gate step).system rest) :
    Inserts host gate system (.original step :: rest)
  /-- A duplicate. -/
  | duplicate {system : System σ} {tag : String} {request : Request} {rest : List (Move σ)}
      (duplicate : Duplicate system request)
      (later : Inserts host gate (system.step host gate (.start tag request)).system rest) :
    Inserts host gate system (.duplicate tag request :: rest)

/-- The replies to the original steps among some moves. -/
def System.originalReplies (host : Host σ) (gate : Gate) (system : System σ)
    (moves : List (Move σ)) : List (Reply σ) :=
  (moves.zip (system.replies host gate (moves.map Move.step))).filterMap fun reply =>
    reply.1.original?.map fun _ => reply.2

/-- A run with duplicates is the run without them, but for the replies to the duplicates. -/
theorem Inserts.same_run {moves : List (Move σ)} (inserts : Inserts host gate system moves) :
    system.originalReplies host gate moves =
        system.replies host gate (moves.filterMap Move.original?) ∧
      (system.replies host gate (moves.map Move.step)).flatMap Reply.asked =
        (system.replies host gate (moves.filterMap Move.original?)).flatMap Reply.asked ∧
      (moves.map Move.step).foldl (fun system step => (system.step host gate step).system) system =
        (moves.filterMap Move.original?).foldl
          (fun system step => (system.step host gate step).system) system := by
  induction inserts with
  | nil system => exact ⟨rfl, rfl, rfl⟩
  | @original system step rest later ih =>
    obtain ⟨replies, asked, final⟩ := ih
    refine ⟨?_, ?_, final⟩
    · exact congrArg (system.step host gate step :: ·) replies
    · exact congrArg ((system.step host gate step).asked ++ ·) asked
  | @duplicate system tag request rest duplicate later ih =>
    have inert : system.step host gate (.start tag request) =
        ⟨system, some (.failure request.id busyError), []⟩ :=
      System.step_duplicate duplicate tag
    rw [inert] at ih
    obtain ⟨replies, asked, final⟩ := ih
    have replied : system.replies host gate ((Move.duplicate tag request :: rest).map Move.step) =
        ⟨system, some (.failure request.id busyError), []⟩ ::
          system.replies host gate (rest.map Move.step) := by
      simp only [List.map_cons, Move.step, System.replies, inert]
    refine ⟨?_, ?_, ?_⟩
    · simp only [System.originalReplies, replied, List.zip_cons_cons]
      exact replies
    · rw [replied, List.flatMap_cons]
      exact asked
    · simp only [List.map_cons, Move.step, List.foldl_cons, inert]
      exact final

/-- Duplicates are inert: wherever one is started after any steps it is answered at once, under its
id, as unavailable, nothing is asked and nothing changes; and a run into which duplicates are put
replies to each original step as before, with the same dispatcher after it, and asks the same
queries. -/
theorem duplicates_inert (host : Host σ) (gate : Gate) (world : σ) :
    (∀ steps tag request, Duplicate (System.after host gate world steps) request →
      ∃ error, error.code = .resourceUnavailable ∧ error.code.number = -32002 ∧
        (System.after host gate world steps).start host gate tag request =
          ⟨System.after host gate world steps, some (.failure request.id error), []⟩) ∧
    ∀ moves, Inserts host gate (.initial world) moves →
      (System.initial world).originalReplies host gate moves =
          (System.initial world).replies host gate (moves.filterMap Move.original?) ∧
        ((System.initial world).replies host gate (moves.map Move.step)).flatMap Reply.asked =
          ((System.initial world).replies host gate (moves.filterMap Move.original?)).flatMap
            Reply.asked ∧
        System.after host gate world (moves.map Move.step) =
          System.after host gate world (moves.filterMap Move.original?) := by
  refine ⟨fun steps tag request duplicate => ?_, fun moves inserts => inserts.same_run⟩
  exact ⟨busyError, rfl, rfl, System.step_duplicate duplicate tag⟩

/-- A request waits for its accounts, a second one of its origin is started and turned away, and the
first one is dropped: the run is that of the first request alone. -/
theorem duplicates_inert_while_parked :
    let host : Host Unit := ⟨fun _ _ => true, fun _ _ => (.error busyError, ())⟩
    let request : Request :=
      { id := .null, method := requestAccountsMethod, origin := "https://a.example" }
    let second : Request := { request with id := .number 1 }
    let moves : List (Move Unit) :=
      [.original (.start "a" request), .duplicate "b" second, .original (.cancel "a")]
    Inserts host .standard (.initial ()) moves ∧
      ((System.initial ()).replies host .standard (moves.map Move.step)).flatMap Reply.asked =
        [.accounts request.origin true] ∧
      System.after host .standard () (moves.map Move.step) =
        System.after host .standard () [.start "a" request, .cancel "a"] := by
  intro host request second moves
  have locked : second.origin ∈
      (System.after host .standard () [.start "a" request]).locks.origins := by decide +kernel
  have inserts : Inserts host .standard (.initial ()) moves :=
    .original (.duplicate ⟨rfl, by decide, rfl, locked⟩ (.original (.nil _)))
  obtain ⟨-, law⟩ := duplicates_inert host .standard ()
  obtain ⟨-, asked, final⟩ := law moves inserts
  refine ⟨inserts, ?_, final⟩
  rw [asked]
  rfl

end WalletCore.Rpc
