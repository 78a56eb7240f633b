import WalletCore.Proofs.Rpc.Admission
import WalletCore.Proofs.Rpc.GrantApproval
import WalletCore.Proofs.Rpc.LockSafety

/-! # Routing of requests

Which request gets where. A request that passes the checks is forwarded exactly if it is none of the
two kinds of requests that are answered here. Unlocking, approvals, grants and locks are the
business of admitted requests for accounts alone, and no request asks anything for an origin but its
own (`RoutedConduct`). Where a step changes whether an origin is locked, it writes down the
admission or the end of the request of this origin that took or gave back the lock
(`Disciplined.lock_change`).
-/
namespace WalletCore.Rpc

/-- The origin that a query names. -/
def Query.origin? : Query → Option String
  | .accounts origin _ | .approval origin | .grant origin _ => some origin
  | .unlock _ | .forward _ => none

/-- Whether a query may prompt the user or change what an origin may do. -/
def Query.isGuarded : Query → Bool
  | .unlock _ | .approval _ | .grant .. => true
  | .accounts .. | .forward _ => false

/-- Whether a request is to be answered elsewhere. -/
structure Forwards (registrations : List (String × String)) (request : Request) : Prop where
  /-- It passes the checks. -/
  passes : Passes registrations request
  /-- It is no request for accounts. -/
  notRequest : request.method ≠ requestAccountsMethod
  /-- It is no question for the accounts that the origin may see now. -/
  notCurrent : request.method ≠ Gate.accountsMethod

/-- How a request is routed, told by all that happened to it. -/
structure RoutedConduct (registrations : List (String × String)) (request : Request)
    (events : List Event) : Prop where
  /-- Only a request that passes the checks asks anything. -/
  passes : queries events ≠ [] → Passes registrations request
  /-- A request that is to be answered elsewhere is forwarded, once, and asks nothing else. -/
  forwards : Forwards registrations request → queries events = [.forward request]
  /-- No other request is forwarded, and none in place of another one. -/
  forwarded : ∀ other, .forward other ∈ queries events →
    other = request ∧ Forwards registrations request
  /-- The user is prompted and authorizations are granted for admitted requests for accounts. -/
  guarded : ∀ query ∈ queries events, query.isGuarded = true →
    .admitted ∈ events ∧ request.method = requestAccountsMethod
  /-- A question for the accounts that the origin may see now asks at most for them. -/
  current : request.method = Gate.accountsMethod →
    queries events <+: [.accounts request.origin false]
  /-- Only the request's own origin is named. -/
  own : ∀ query ∈ queries events, ∀ origin, query.origin? = some origin →
    origin = request.origin

/-- A script asks for nothing but its origin, and forwards nothing. -/
theorem Script.queries_local {origin : String} {script : List Event}
    (scripted : Script origin script) :
    (∀ query ∈ queries script, ∀ other, query.origin? = some other → other = origin) ∧
      ∀ request, .forward request ∉ queries script := by
  cases scripted with
  | known nonempty => simp [queries, knownScript, Event.query?, Query.origin?]
  | granted value accounts =>
    constructor
    · intro query member other named
      simp only [queries, grantScript, Event.query?, List.filterMap_cons, List.filterMap_nil,
        List.mem_cons, List.not_mem_nil, or_false] at member
      rcases member with rfl | rfl | rfl | rfl <;> exact (Option.some.inj named).symm
    · simp [queries, grantScript, Event.query?]

namespace RoutedConduct

variable {registrations : List (String × String)} {request : Request}

/-- A request that is turned away asks nothing; it was not to be forwarded. -/
theorem of_refused (error : Error) (stays : ¬ Forwards registrations request) :
    RoutedConduct registrations request [.responded (.failure request.id error)] where
  passes asked := absurd rfl asked
  forwards goes := absurd goes stays
  forwarded _ member := absurd member List.not_mem_nil
  guarded _ member := absurd member List.not_mem_nil
  current _ := List.nil_prefix
  own _ member := absurd member List.not_mem_nil

/-- A request for accounts that was admitted keeps to a script. -/
theorem of_accountsCourse {events last : List Event} {progress : Progress Json}
    (passes : Passes registrations request) (asks : request.method = requestAccountsMethod)
    (path : AccountsCourse request.origin events progress)
    (ending : Ending request progress last) :
    RoutedConduct registrations request (.admitted :: (events ++ last)) := by
  obtain ⟨script, scripted, part⟩ := path.queries_prefix
  obtain ⟨own, noForward⟩ := scripted.queries_local
  constructor
  case passes => exact fun _ => passes
  case forwards => exact fun goes => absurd asks goes.notRequest
  case forwarded =>
    intro other member
    rw [ending.queries_eq] at member
    exact absurd (part.subset member) (noForward other)
  case guarded => exact fun _ _ _ => ⟨List.mem_cons_self, asks⟩
  case current =>
    intro current
    rw [asks] at current
    exact absurd current (by decide)
  case own =>
    intro query member
    rw [ending.queries_eq] at member
    exact own query (part.subset member)

/-- Any other request that was admitted asks its one query. -/
theorem of_onlyQuery {events last : List Event} {progress : Progress Json}
    (passes : Passes registrations request) (other : request.method ≠ requestAccountsMethod)
    (course : request.dialogue.Course events progress)
    (ending : Ending request progress last) :
    RoutedConduct registrations request (.admitted :: (events ++ last)) := by
  have asked : queries (.admitted :: (events ++ last)) = [request.onlyQuery] :=
    ending.queries_eq.trans (Request.queries_of_not_asks other course)
  by_cases current : request.method = Gate.accountsMethod
  · rw [Request.onlyQuery, if_pos current] at asked
    refine ⟨fun _ => passes, fun goes => absurd current goes.notCurrent, ?_, ?_, ?_, ?_⟩ <;>
      simp [asked, Query.isGuarded, Query.origin?]
  · rw [Request.onlyQuery, if_neg current] at asked
    refine ⟨fun _ => passes, fun _ => asked, ?_, ?_, fun here => absurd here current, ?_⟩
    · intro another member
      rw [asked, List.mem_singleton] at member
      cases member
      exact ⟨rfl, passes, other, current⟩
    · simp [asked, Query.isGuarded]
    · simp [asked, Query.origin?]

end RoutedConduct

/-- Every request of a history is routed as it should be. -/
theorem Sound.routed {σ : Type} {history : History σ} (sound : Sound none history) {gate : Gate}
    {registrations : List (String × String)} (built : gate.Built registrations)
    (vetted : ∀ entry ∈ history.log, Vetted gate history.log entry) {entry : Entry}
    (member : entry ∈ history.log) :
    RoutedConduct registrations entry.request (eventsOf history.log entry.number) := by
  have told := sound.told member
  have here : entry.event ∈ eventsOf history.log entry.number :=
    mem_eventsOf.2 ⟨entry, member, rfl, rfl⟩
  generalize same : eventsOf history.log entry.number = events at told here ⊢
  cases told with
  | refused error =>
    refine .of_refused error fun goes => ?_
    -- The request passed, so it was turned away for a lock, which only requests for accounts need.
    cases vetted entry member with
    | refused verdict answer =>
      exact Gate.not_passes_iff.2 ⟨_, built.admit_eq_error_iff.1 verdict⟩ goes.passes
    | busy verdict needs answer => exact goes.notRequest (entry.request.needsLock_iff.1 needs)
    | admitted verdict admission =>
      have happened : .admitted ∈ eventsOf history.log entry.number :=
        mem_eventsOf.2 ⟨_, admission, rfl, rfl⟩
      simp [same] at happened
  | @admitted events last progress course ending =>
    -- Of a request that was admitted something is written down that vets it.
    have happened : .admitted ∈ eventsOf history.log entry.number := by
      rw [same]
      exact List.mem_cons_self
    obtain ⟨admission, inLog, number, event⟩ := mem_eventsOf.1 happened
    have whole : admission.request = entry.request :=
      sound.disciplined.same_request admission inLog entry member number
    have passes : Passes registrations entry.request := by
      rw [← whole]
      cases vetted admission inLog with
      | refused verdict answer =>
        rw [event] at answer
        contradiction
      | busy verdict needs answer =>
        rw [event] at answer
        contradiction
      | admitted verdict _ => exact built.admits_iff.1 ⟨_, verdict⟩
    by_cases asks : entry.request.method = requestAccountsMethod
    · exact .of_accountsCourse passes asks (accountsCourse asks course) ending
    · exact .of_onlyQuery passes asks course ending

/-- Where an origin gets locked or unlocked between a history and a longer one, the longer one tells
of the admission or of the end of an admitted request for accounts of this origin. -/
theorem Disciplined.lock_change {started later : Nat} {locks locksLater : LockSet}
    {log new : List Entry} (before : Disciplined started locks log)
    (after : Disciplined later locksLater (log ++ new)) {origin : String}
    (changes : ¬ (origin ∈ locksLater.origins ↔ origin ∈ locks.origins)) :
    ∃ entry ∈ new, (entry.event = .admitted ∨ entry.event.isEnd = true) ∧
      ⟨entry.number, entry.request, .admitted⟩ ∈ log ++ new ∧
      entry.request.method = requestAccountsMethod ∧ entry.request.origin = origin := by
  rw [before.locked_iff, after.locked_iff] at changes
  by_cases held : ∃ number request, InFlight log number request ∧ request.needsLock = true ∧
      request.origin = origin
  · -- The request that held the lock is over.
    obtain ⟨number, request, ⟨admitted, unended⟩, needs, same⟩ := held
    have gone : ¬ InFlight (log ++ new) number request := fun running =>
      changes ⟨fun _ => ⟨number, request, ⟨admitted, unended⟩, needs, same⟩,
        fun _ => ⟨number, request, running, needs, same⟩⟩
    have stays : ⟨number, request, .admitted⟩ ∈ log ++ new := List.mem_append_left _ admitted
    obtain ⟨entry, member, own, last⟩ : ∃ entry ∈ log ++ new, entry.number = number ∧
        entry.event.isEnd = true := by
      apply Classical.byContradiction
      intro endless
      refine gone ⟨stays, fun entry member own => Bool.eq_false_iff.2 fun last => ?_⟩
      exact endless ⟨entry, member, own, last⟩
    have whole : entry.request = request := after.same_request entry member _ stays own
    rcases List.mem_append.1 member with former | recent
    · rw [unended entry former own] at last
      contradiction
    · refine ⟨entry, recent, .inr last, ?_, ?_, ?_⟩
      · rw [own, whole]
        exact stays
      · rw [whole]
        exact request.needsLock_iff.1 needs
      · rw [whole]
        exact same
  · -- The request that holds the lock now was not in flight.
    obtain ⟨number, request, ⟨admitted, unended⟩, needs, same⟩ :
        ∃ number request, InFlight (log ++ new) number request ∧ request.needsLock = true ∧
          request.origin = origin := by
      apply Classical.byContradiction
      intro idle
      exact changes ⟨fun now => absurd now idle, fun earlier => absurd earlier held⟩
    rcases List.mem_append.1 admitted with former | recent
    · refine absurd ⟨number, request, ⟨former, fun entry member own => ?_⟩, needs, same⟩ held
      exact unended entry (List.mem_append_left _ member) own
    · exact ⟨_, recent, .inl rfl, admitted, request.needsLock_iff.1 needs, same⟩

/-- The queries that a run reports are those of its course. -/
theorem Dialogue.asked_run {σ α : Type} (host : Host σ) (world : σ) (dialogue : Dialogue α) :
    (dialogue.run host world).asked = queries (dialogue.events host world) := by
  have left : ∀ event : Event, event.query? = event.shown?.bind Sum.getLeft? := by
    intro event
    cases event <;> rfl
  have shown := congrArg (List.filterMap Sum.getLeft?) (dialogue.shown_events host world)
  rw [List.filterMap_filterMap, List.filterMap_map] at shown
  simp only [queries, funext left, shown]
  exact (List.filterMap_some).symm

/-- Which request an admitted request forwards. -/
theorem Request.forward_mem_queries_iff {request other : Request} {events : List Event}
    {progress : Progress Json} (course : request.dialogue.Course events progress) :
    .forward other ∈ queries events ↔
      other = request ∧ request.method ≠ requestAccountsMethod ∧
        request.method ≠ Gate.accountsMethod := by
  by_cases asks : request.method = requestAccountsMethod
  · have path := accountsCourse asks course
    obtain ⟨script, scripted, part⟩ := path.queries_prefix
    have absent : .forward other ∉ queries events := fun member =>
      scripted.queries_local.2 other (part.subset member)
    simp [absent, asks]
  · rw [queries_of_not_asks asks course, List.mem_singleton, onlyQuery]
    split
    · rename_i current
      simp [current]
    · rename_i elsewhere
      simp [asks, elsewhere]

/-- A request that is to be answered elsewhere is forwarded as soon as it is started, and no other
request is forwarded then. -/
theorem System.forwards_start {σ : Type} (system : System σ) (host : Host σ) {gate : Gate}
    {registrations : List (String × String)} (built : gate.Built registrations) (tag : String)
    (request other : Request) :
    .forward other ∈ (system.start host gate tag request).asked ↔
      other = request ∧ Forwards registrations request := by
  have course := Dialogue.course_run host system.world request.dialogue
  have sent : .forward other ∈ (request.dialogue.run host system.world).asked ↔
      other = request ∧ request.method ≠ requestAccountsMethod ∧
        request.method ≠ Gate.accountsMethod := by
    rw [Dialogue.asked_run]
    exact Request.forward_mem_queries_iff course
  cases verdict : gate.admit request with
  | error error =>
    have fails := Gate.not_passes_iff.2 ⟨_, built.admit_eq_error_iff.1 verdict⟩
    have asked : (system.start host gate tag request).asked = [] := by
      simp only [start, verdict]
    rw [asked]
    exact ⟨fun member => absurd member List.not_mem_nil, fun both => absurd both.2.passes fails⟩
  | ok access =>
    have passes := built.admits_iff.1 ⟨_, verdict⟩
    have goes : request.method ≠ requestAccountsMethod ∧ request.method ≠ Gate.accountsMethod ↔
        Forwards registrations request :=
      ⟨fun both => ⟨passes, both.1, both.2⟩, fun goes => ⟨goes.notRequest, goes.notCurrent⟩⟩
    rw [goes] at sent
    by_cases needs : request.needsLock = true
    · have stays : ¬ Forwards registrations request := fun goes =>
        goes.notRequest (request.needsLock_iff.1 needs)
      simp only [start, verdict, needs, ↓reduceIte]
      cases system.locks.acquire? request.origin with
      | none =>
        exact ⟨fun member => absurd member List.not_mem_nil, fun both => absurd both.2 stays⟩
      | some locks =>
        simp only [asked_settle]
        exact sent
    · simp only [start, verdict, needs, Bool.false_eq_true, ↓reduceIte, asked_settle]
      exact sent

/-- Requests are admitted and routed by their own contents only: at every gate that is built by
registrations and after any steps whatever. A request that fails one of the checks, which are made
in order, is answered with the error of that check, nothing is asked and nothing changes; it is
forwarded exactly if it passes and is answered nowhere else; all that happens to it is told and
routed as it should be; and an origin gets locked or unlocked only with the admission or the end of
an admitted request for its accounts. -/
theorem admitted_and_routed {σ : Type} {gate : Gate} {registrations : List (String × String)}
    (built : gate.Built registrations) (host : Host σ) (world : σ) (steps : List (Step σ)) :
    (∀ method, gate.classify? method =
      if method ∈ Permission.Method.unrestricted then some .unrestricted
      else (registrations.reverse.lookup method).map .restricted) ∧
    (∀ request, ¬ Passes registrations request ↔ ∃ error, Refusal registrations request error) ∧
    (∀ request error tag, Refusal registrations request error →
      (System.after host gate world steps).start host gate tag request =
        ⟨System.after host gate world steps, some (.failure request.id error), []⟩) ∧
    (∀ request other tag,
      .forward other ∈ ((System.after host gate world steps).start host gate tag request).asked ↔
        other = request ∧ Forwards registrations request) ∧
    (History.after host gate world steps).shown =
      ((System.initial world).replies host gate steps).flatMap Reply.shown ∧
    (∀ entry ∈ (History.after host gate world steps).log,
      RoutedConduct registrations entry.request
        (eventsOf (History.after host gate world steps).log entry.number)) ∧
    (∀ step origin,
      ¬ (origin ∈ (System.after host gate world (steps ++ [step])).locks.origins ↔
        origin ∈ (System.after host gate world steps).locks.origins) →
      ∃ new, (History.after host gate world (steps ++ [step])).log =
          (History.after host gate world steps).log ++ new ∧
        ∃ entry ∈ new, (entry.event = .admitted ∨ entry.event.isEnd = true) ∧
          ⟨entry.number, entry.request, .admitted⟩ ∈
            (History.after host gate world (steps ++ [step])).log ∧
          entry.request.method = requestAccountsMethod ∧ entry.request.origin = origin) := by
  have sound := Sound.sound_after host gate world steps
  have vetted := Sound.vetted_after host gate world steps
  refine ⟨built.classify?_eq, fun request => Gate.not_passes_iff, ?_, ?_,
    History.shown_after host gate world steps, fun entry => sound.routed built vetted, ?_⟩
  · intro request error tag refusal
    simp only [System.start, built.admit_eq_error_iff.2 refusal]
  · intro request other tag
    exact System.forwards_start _ host built tag request other
  · intro step origin changes
    have later := Sound.sound_after host gate world (steps ++ [step])
    have last : History.after host gate world (steps ++ [step]) =
        (History.after host gate world steps).step host gate step := by
      rw [History.after, List.foldl_append]
      rfl
    obtain ⟨new, log⟩ := History.log_step host gate (History.after host gate world steps) step
    rw [← last] at log
    have after := later.disciplined
    rw [← log] at after
    rw [← History.system_after, ← History.system_after] at changes
    obtain ⟨entry, member, cause, admitted, whose⟩ := sound.disciplined.lock_change after changes
    rw [log] at admitted
    exact ⟨new, log.symm, entry, member, cause, admitted, whose⟩

/-- At the standard gate with one more method, a request for this method is forwarded, one for a
method that was not registered is refused, and a request for accounts locks its origin. -/
theorem admitted_and_routed_at_extended_gate :
    let host : Host Unit := ⟨fun _ _ => true, fun _ _ => (.error busyError, ())⟩
    let gate := Gate.standard.register "snap_dialog" "snaps"
    let sent : Request := { id := .null, method := "snap_dialog", origin := "https://a.example" }
    let lost : Request := { sent with method := "snap_notify" }
    let asks : Request := { sent with method := requestAccountsMethod }
    let system := System.initial ()
    gate.classify? "snap_dialog" = some (.restricted "snaps") ∧
      .forward sent ∈ (system.start host gate "a" sent).asked ∧
      system.start host gate "a" lost =
        ⟨system, some (.failure .null (.methodNotFound "snap_notify")), []⟩ ∧
      ∃ entry ∈ (History.after host gate () [.start "a" asks]).log,
        entry.request.method = requestAccountsMethod ∧ entry.request.origin = asks.origin := by
  intro host gate sent lost asks system
  have built : gate.Built [(Gate.accountsMethod, Permission.authorizationName),
    ("snap_dialog", "snaps")] := .register "snap_dialog" "snaps" .standard
  obtain ⟨classified, -, refused, forwarded, -, -, locked⟩ :=
    admitted_and_routed built host () []
  have passes : Passes [(Gate.accountsMethod, Permission.authorizationName),
      ("snap_dialog", "snaps")] sent := ⟨rfl, by decide, .inr (by decide)⟩
  have unknown : ¬ Known [(Gate.accountsMethod, Permission.authorizationName),
      ("snap_dialog", "snaps")] lost.method := by
    rintro (unrestricted | registered)
    · exact absurd unrestricted (by decide +kernel)
    · exact absurd registered (by decide)
  have changes : ¬ (asks.origin ∈
        (System.after host gate () ([] ++ [.start "a" asks])).locks.origins ↔
      asks.origin ∈ (System.after host gate () []).locks.origins) := by decide +kernel
  refine ⟨?_, ?_, ?_, ?_⟩
  · rw [classified, if_neg (by decide +kernel)]
    rfl
  · exact (forwarded sent sent "a").2 ⟨rfl, passes, by decide, by decide⟩
  · exact refused lost _ "a" (.method rfl (by decide) unknown)
  · obtain ⟨new, log, entry, member, -, -, method, origin⟩ := locked (.start "a" asks) _ changes
    refine ⟨entry, ?_, method, origin⟩
    change entry ∈ (History.after host gate () ([] ++ [.start "a" asks])).log
    rw [log]
    exact List.mem_append_right _ member

end WalletCore.Rpc
