import WalletCore.Proofs.Rpc.Soundness
import WalletCore.Proofs.Table

/-! # What a gate admits

A gate is built by registering methods one after the other. Its verdict on a method depends on the
list of the registrations only (`Gate.Built.classify?_eq`), so whether a request passes can be said
without the gate (`Passes`), and so can the error that refuses it otherwise (`Refusal`). Every
history keeps to these verdicts: whoever was admitted passed, and whoever passed and was still
turned away needed a lock (`vetted_after`).
-/
namespace WalletCore.Rpc

/-- The gates that are built by registrations, listed with the earliest one first, on the gate that
admits nothing but unrestricted methods or on the standard one. -/
inductive Gate.Built : Gate → List (String × String) → Prop where
  /-- The gate without registrations. -/
  | empty : Built .empty []
  /-- The gate at which the accounts of an origin need an authorization. -/
  | standard : Built .standard [(Gate.accountsMethod, Permission.authorizationName)]
  /-- One more method is registered. -/
  | register {gate : Gate} {registrations : List (String × String)} (method permission : String)
      (before : Built gate registrations) :
    Built (gate.register method permission) (registrations ++ [(method, permission)])

/-- Whether a method is unrestricted or registered. -/
def Known (registrations : List (String × String)) (method : String) : Prop :=
  method ∈ Permission.Method.unrestricted ∨ method ∈ Entries.names registrations

/-- Whether a request passes the three checks. -/
structure Passes (registrations : List (String × String)) (request : Request) : Prop where
  /-- The version is that of the protocol. -/
  version : request.version = protocolVersion
  /-- The origin is named. -/
  named : request.origin ≠ ""
  /-- The method is known. -/
  known : Known registrations request.method

/-- The error for a request that does not pass: that of the first check which it fails. -/
inductive Refusal (registrations : List (String × String)) (request : Request) : Error → Prop where
  /-- The version is another one. -/
  | version (other : request.version ≠ protocolVersion) :
    Refusal registrations request
      (.invalidRequest ("Unsupported jsonrpc version: " ++ request.version))
  /-- The origin is not named. -/
  | origin (version : request.version = protocolVersion) (missing : request.origin = "") :
    Refusal registrations request (.invalidRequest "Request is missing an origin")
  /-- The method is unknown. -/
  | method (version : request.version = protocolVersion) (named : request.origin ≠ "")
      (unknown : ¬ Known registrations request.method) :
    Refusal registrations request (.methodNotFound request.method)

namespace Gate

variable {gate : Gate} {registrations : List (String × String)} {request : Request}

/-- A gate keeps the last permission under which a method was registered. -/
theorem Built.get?_permissions (built : Built gate registrations) (method : String) :
    gate.permissions.get? method = registrations.reverse.lookup method := by
  induction built with
  | empty => rfl
  | standard =>
    change (Table.insert .empty accountsMethod Permission.authorizationName).get? method = _
    rw [Table.get?_insert, List.reverse_singleton, Entries.lookup_cons]
    rfl
  | register registered permission before ih =>
    rw [Gate.register, Table.get?_insert, List.reverse_append, List.reverse_singleton,
      List.singleton_append, Entries.lookup_cons, ih]

/-- An unrestricted method stays unrestricted, and any other method is admitted under the last
permission under which it was registered. -/
theorem Built.classify?_eq (built : Built gate registrations) (method : String) :
    gate.classify? method =
      if method ∈ Permission.Method.unrestricted then some .unrestricted
      else (registrations.reverse.lookup method).map .restricted := by
  have listed : Permission.Method.isUnrestricted method = true ↔
      method ∈ Permission.Method.unrestricted := List.contains_iff_mem
  simp only [classify?, built.get?_permissions, listed]

/-- A gate admits the methods that are known. -/
theorem Built.classify?_eq_none_iff (built : Built gate registrations) (method : String) :
    gate.classify? method = none ↔ ¬ Known registrations method := by
  have unregistered : registrations.reverse.lookup method = none ↔
      method ∉ Entries.names registrations := by
    rw [List.lookup_eq_none_iff, Entries.names, List.mem_map]
    simp only [List.mem_reverse, bne_iff_ne, ne_eq, not_exists, not_and]
    exact forall₂_congr fun entry _ => not_congr eq_comm
  rw [built.classify?_eq, Known]
  split
  · rename_i unrestricted
    simp [unrestricted]
  · rename_i restricted
    rw [Option.map_eq_none_iff, unregistered]
    simp [restricted]

/-- A request is refused with an error exactly if it is the error of the first check that fails. -/
theorem Built.admit_eq_error_iff (built : Built gate registrations) {error : Error} :
    gate.admit request = .error error ↔ Refusal registrations request error := by
  have unnamed : request.origin.isEmpty = true ↔ request.origin = "" := String.isEmpty_iff
  have unknown := built.classify?_eq_none_iff request.method
  constructor
  · intro refused
    unfold Gate.admit at refused
    split at refused
    · rename_i other
      cases refused
      exact .version other
    rename_i version
    split at refused
    · rename_i missing
      cases refused
      exact .origin (Classical.not_not.1 version) (unnamed.1 missing)
    rename_i named
    unfold check at refused
    cases verdict : gate.classify? request.method with
    | some access =>
      rw [verdict] at refused
      contradiction
    | none =>
      rw [verdict] at refused
      cases refused
      refine .method (Classical.not_not.1 version) (fun missing => named (unnamed.2 missing)) ?_
      exact unknown.1 verdict
  · intro refusal
    unfold Gate.admit
    cases refusal with
    | version other => rw [if_pos other]
    | origin version missing =>
      rw [if_neg (not_not_intro version), if_pos (unnamed.2 missing)]
    | method version named absent =>
      rw [if_neg (not_not_intro version), if_neg (mt unnamed.1 named), check, unknown.2 absent]
      rfl

/-- A request does not pass exactly if there is an error for it. -/
theorem not_passes_iff :
    ¬ Passes registrations request ↔ ∃ error, Refusal registrations request error := by
  constructor
  · intro fails
    by_cases version : request.version = protocolVersion
    · by_cases missing : request.origin = ""
      · exact ⟨_, .origin version missing⟩
      · exact ⟨_, .method version missing fun known => fails ⟨version, missing, known⟩⟩
    · exact ⟨_, .version version⟩
  · rintro ⟨error, refusal⟩ passes
    cases refusal with
    | version other => exact other passes.version
    | origin version missing => exact passes.named missing
    | method version named unknown => exact unknown passes.known

/-- A request is admitted exactly if it passes. -/
theorem Built.admits_iff (built : Built gate registrations) :
    (∃ access, gate.admit request = .ok access) ↔ Passes registrations request := by
  rw [← Classical.not_not (a := Passes registrations request), not_passes_iff]
  simp only [← built.admit_eq_error_iff]
  cases gate.admit request with
  | ok access => simp
  | error error => simp

end Gate

/-! ## The verdicts in a history -/

/-- What an entry of a log has to do with the verdict of the gate on its request. -/
inductive Vetted (gate : Gate) (log : List Entry) (entry : Entry) : Prop where
  /-- The gate refused the request, and this is its answer. -/
  | refused {error : Error} (verdict : gate.admit entry.request = .error error)
      (answer : entry.event = .responded (.failure entry.request.id error))
  /-- The request passed, and was turned away because of a lock. -/
  | busy {access : Access} (verdict : gate.admit entry.request = .ok access)
      (needs : entry.request.needsLock = true)
      (answer : entry.event = .responded (.failure entry.request.id busyError))
  /-- The request passed and was admitted. -/
  | admitted {access : Access} (verdict : gate.admit entry.request = .ok access)
      (member : ⟨entry.number, entry.request, .admitted⟩ ∈ log)

/-- What was written down stays vetted. -/
theorem Vetted.mono {gate : Gate} {log longer : List Entry} {entry : Entry}
    (vetted : Vetted gate log entry) (kept : log ⊆ longer) : Vetted gate longer entry := by
  cases vetted with
  | refused verdict answer => exact .refused verdict answer
  | busy verdict needs answer => exact .busy verdict needs answer
  | admitted verdict member => exact .admitted verdict (kept member)

namespace History

variable {σ : Type} {history : History σ} {entry : Entry}

/-- What is new after dropping a parked request is about this request. -/
theorem mem_log_cancel {tag : String} (member : entry ∈ (history.cancel tag).log) :
    entry ∈ history.log ∨ ∃ call, history.system.calls.get? tag = some call ∧
      entry.number = history.owner tag ∧ entry.request = call.request := by
  unfold cancel at member
  cases found : history.system.calls.get? tag with
  | none =>
    rw [found] at member
    exact .inl member
  | some call =>
    rw [found] at member
    rcases List.mem_append.1 member with former | new
    · exact .inl former
    · obtain rfl := List.mem_singleton.1 new
      exact .inr ⟨call, rfl, rfl, rfl⟩

/-- What is new after a run is about the request that ran, or about one that it displaces. -/
theorem mem_log_settle {tag : String} {number : Nat} {request : Request} {held : Bool}
    {run : Run σ Json} {events : List Event}
    (member : entry ∈ (history.settle tag number request held run events).log) :
    entry ∈ history.log ∨ (entry.number = number ∧ entry.request = request) ∨
      ∃ call, history.system.calls.get? tag = some call ∧ entry.number = history.owner tag ∧
        entry.request = call.request := by
  have noted : ∀ {log : List Entry} {events : List Event},
      entry ∈ log ++ events.map (⟨number, request, ·⟩) →
      entry ∈ log ∨ (entry.number = number ∧ entry.request = request) := by
    intro log events member
    rcases List.mem_append.1 member with former | new
    · exact .inl former
    · obtain ⟨event, -, rfl⟩ := List.mem_map.1 new
      exact .inr ⟨rfl, rfl⟩
  unfold settle at member
  cases reached : run.progress with
  | ended outcome =>
    rw [reached] at member
    rcases noted member with before | here
    · exact (noted before).imp_right .inl
    · exact .inr (.inl here)
  | parked query next =>
    rw [reached] at member
    rcases mem_log_cancel member with before | displaced
    · exact (noted before).imp_right .inl
    · exact .inr (.inr displaced)

/-- Nothing that was written down is lost by a step. -/
theorem log_step (host : Host σ) (gate : Gate) (history : History σ) (step : Step σ) :
    history.log <+: (history.step host gate step).log := by
  cases step with
  | start tag request =>
    simp only [History.step, start]
    cases gate.admit request with
    | error error => exact List.prefix_append ..
    | ok access =>
      cases request.lockIn? history.system.locks with
      | none => exact List.prefix_append ..
      | some locks =>
        have accepted : history.log <+: (history.accept request locks).log :=
          List.prefix_append ..
        exact accepted.trans (log_settle ..)
  | resume tag =>
    simp only [History.step, resume]
    cases history.system.calls.get? tag with
    | none => exact List.prefix_rfl
    | some call => exact log_settle (history.take tag) ..
  | cancel tag => exact log_cancel history tag
  | change world => exact List.prefix_rfl

end History

namespace Sound

variable {σ : Type} {history : History σ} {gate : Gate}

/-- One more entry is vetted. -/
theorem vetted_concat {log : List Entry} {entry : Entry}
    (vetted : ∀ entry ∈ log, Vetted gate log entry) (new : Vetted gate (log ++ [entry]) entry) :
    ∀ other ∈ log ++ [entry], Vetted gate (log ++ [entry]) other := by
  refine List.forall_mem_append.2 ⟨fun other member => ?_, List.forall_mem_singleton.2 new⟩
  exact (vetted other member).mono (List.subset_append_left ..)

/-- A parked request was admitted, so it passed. -/
theorem vetted_parked {running : Option Nat} (sound : Sound running history)
    (vetted : ∀ entry ∈ history.log, Vetted gate history.log entry) {tag : String} {call : Call}
    (found : history.system.calls.get? tag = some call) :
    ∃ access, gate.admit call.request = .ok access ∧
      ⟨history.owner tag, call.request, .admitted⟩ ∈ history.log := by
  obtain ⟨-, -, events, runs, -⟩ := sound.parked tag call found
  cases vetted _ runs.admitted with
  | refused verdict answer => contradiction
  | busy verdict needs answer => contradiction
  | admitted verdict member => exact ⟨_, verdict, member⟩

/-- A run for an admitted request is settled. -/
theorem vetted_settle {running : Option Nat} (sound : Sound running history)
    (vetted : ∀ entry ∈ history.log, Vetted gate history.log entry) {number : Nat}
    {request : Request} {access : Access} (passed : gate.admit request = .ok access)
    (admitted : ⟨number, request, .admitted⟩ ∈ history.log) (tag : String) (held : Bool)
    (run : Run σ Json) (events : List Event) :
    ∀ entry ∈ (history.settle tag number request held run events).log,
      Vetted gate (history.settle tag number request held run events).log entry := by
  have kept := (history.log_settle tag number request held run events).subset
  intro entry member
  rcases History.mem_log_settle member with former | ⟨rfl, rfl⟩ | ⟨call, found, same, whose⟩
  · exact (vetted entry former).mono kept
  · exact .admitted passed (kept admitted)
  · obtain ⟨access, displaced, parked⟩ := sound.vetted_parked vetted found
    rw [← same, ← whose] at parked
    rw [← whose] at displaced
    exact .admitted displaced (kept parked)

/-- A request is started. -/
theorem vetted_start (sound : Sound none history)
    (vetted : ∀ entry ∈ history.log, Vetted gate history.log entry) (host : Host σ) (tag : String)
    (request : Request) :
    ∀ entry ∈ (history.start host gate tag request).log,
      Vetted gate (history.start host gate tag request).log entry := by
  unfold History.start
  cases verdict : gate.admit request with
  | error error => exact vetted_concat vetted (.refused verdict rfl)
  | ok access =>
    cases locked : request.lockIn? history.system.locks with
    | none =>
      have needs : request.needsLock = true := by
        apply Bool.of_not_eq_false
        intro free
        simp [Request.lockIn?, free] at locked
      exact vetted_concat vetted (.busy verdict needs rfl)
    | some locks =>
      have admitted : ⟨history.started, request, .admitted⟩ ∈ (history.accept request locks).log :=
        List.mem_append_right _ (List.mem_singleton_self _)
      have accepted := vetted_concat vetted (.admitted verdict admitted)
      exact (sound.accept locked).1.vetted_settle accepted verdict admitted tag _ _ _

/-- A parked request is resumed. -/
theorem vetted_resume (sound : Sound none history)
    (vetted : ∀ entry ∈ history.log, Vetted gate history.log entry) (host : Host σ)
    (tag : String) :
    ∀ entry ∈ (history.resume host tag).log, Vetted gate (history.resume host tag).log entry := by
  unfold History.resume
  cases found : history.system.calls.get? tag with
  | none => exact vetted
  | some call =>
    obtain ⟨access, passed, admitted⟩ := sound.vetted_parked vetted found
    exact (sound.take found).vetted_settle vetted passed admitted tag _ _ _

/-- A parked request is dropped. -/
theorem vetted_cancel (sound : Sound none history)
    (vetted : ∀ entry ∈ history.log, Vetted gate history.log entry) (tag : String) :
    ∀ entry ∈ (history.cancel tag).log, Vetted gate (history.cancel tag).log entry := by
  have kept := (history.log_cancel tag).subset
  intro entry member
  rcases History.mem_log_cancel member with former | ⟨call, found, same, whose⟩
  · exact (vetted entry former).mono kept
  · obtain ⟨access, passed, admitted⟩ := sound.vetted_parked vetted found
    rw [← same, ← whose] at admitted
    rw [← whose] at passed
    exact .admitted passed (kept admitted)

/-- Every step keeps the entries vetted. -/
theorem vetted_step (sound : Sound none history)
    (vetted : ∀ entry ∈ history.log, Vetted gate history.log entry) (host : Host σ)
    (step : Step σ) :
    ∀ entry ∈ (history.step host gate step).log,
      Vetted gate (history.step host gate step).log entry := by
  cases step with
  | start tag request => exact sound.vetted_start vetted host tag request
  | resume tag => exact sound.vetted_resume vetted host tag
  | cancel tag => exact sound.vetted_cancel vetted tag
  | change world => exact vetted

/-- Every entry of a history is vetted. -/
theorem vetted_after (host : Host σ) (gate : Gate) (world : σ) (steps : List (Step σ)) :
    ∀ entry ∈ (History.after host gate world steps).log,
      Vetted gate (History.after host gate world steps).log entry := by
  have along : ∀ history : History σ, Sound none history →
      (∀ entry ∈ history.log, Vetted gate history.log entry) →
      ∀ entry ∈ (steps.foldl (History.step host gate) history).log,
        Vetted gate (steps.foldl (History.step host gate) history).log entry := by
    induction steps with
    | nil => exact fun _ _ vetted => vetted
    | cons next rest ih =>
      intro history sound vetted
      exact ih _ (sound.step host gate next) (sound.vetted_step vetted host next)
  refine along _ (.initial world) fun entry member => ?_
  simp [History.initial] at member

end Sound

end WalletCore.Rpc
