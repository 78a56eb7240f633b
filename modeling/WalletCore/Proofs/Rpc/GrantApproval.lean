import WalletCore.Proofs.Rpc.AccountsDialogue
import WalletCore.Proofs.Rpc.Soundness
import WalletCore.Rpc.ScriptedWallet

/-! # Grants follow approvals

An authorization is granted to an origin only by a request for accounts of that origin, and only if
the user approved just this authorization for just this request. Whatever else goes on, every
request for accounts keeps to one of two lists of queries, stops at the first query that fails, and
is answered with the accounts that were found or with the error of the query that failed. Between
the approval and the grant no other request of the origin gets past its refusal.
-/
namespace WalletCore.Rpc

/-- What a request for accounts that was admitted and not dropped came to. -/
inductive AccountsAnswer (request : Request) : List Event → Prop where
  /-- It waits for the answer to a query. -/
  | waiting (before : List Event) (query : Query) :
    AccountsAnswer request (before ++ [.asked query])
  /-- The origin had accounts, the wallet was unlocked, and the response lists those accounts. -/
  | known {known : List String} (nonempty : known ≠ []) :
    AccountsAnswer request (.admitted :: knownScript request.origin known ++
      [.responded (.success request.id (.ofStrings known))])
  /-- The grant was made, and the response lists the accounts that were found after it. -/
  | granted (value : Authorization) (accounts : List String) :
    AccountsAnswer request (.admitted :: grantScript request.origin value accounts ++
      [.responded (.success request.id (.ofStrings accounts))])
  /-- A query failed, and the response is its error. -/
  | failed (before : List Event) (query : Query) (error : Error) :
    AccountsAnswer request (before ++ [.asked query, .answered query (.error error),
      .responded (.failure request.id error)])

/-- How a request for accounts behaves, told by all that happened to it. -/
structure AccountsConduct (request : Request) (events : List Event) : Prop where
  /-- The queries are the first ones of one of two lists. -/
  shape :
    queries events <+: [.accounts request.origin true, .unlock true] ∨
    ∃ value, queries events <+: [.accounts request.origin true, .approval request.origin,
      .grant request.origin value, .accounts request.origin true]
  /-- An approval is asked for only if no accounts were found. -/
  noneFound : ∀ before origin, before ++ [.asked (.approval origin)] <+: events →
    origin = request.origin ∧
      before = [.admitted, .asked (.accounts request.origin true),
        .answered (.accounts request.origin true) (.ok [])]
  /-- A grant is made only of the authorization that was approved. -/
  approved : ∀ before origin value, before ++ [.asked (.grant origin value)] <+: events →
    origin = request.origin ∧
      before = [.admitted, .asked (.accounts request.origin true),
        .answered (.accounts request.origin true) (.ok []), .asked (.approval request.origin),
        .answered (.approval request.origin) (.ok value)]
  /-- After a query failed, or the request was dropped, nothing more is asked. -/
  stops : events.Pairwise fun earlier later => earlier.isBreak = true → later.query? = none
  /-- A request that was admitted and not dropped is answered as it should be. -/
  answer : .admitted ∈ events → .cancelled ∉ events → AccountsAnswer request events

/-- The end of a request asks nothing. -/
theorem Ending.silent {request : Request} {progress : Progress Json} {last : List Event}
    (ending : Ending request progress last) : ∀ event ∈ last, event.query? = none := by
  cases ending with
  | waiting => simp
  | dropped => simp [Event.query?]
  | answered => simp [Event.query?]

/-- The queries of an admitted request are those of its course. -/
theorem Ending.queries_eq {request : Request} {progress : Progress Json}
    {events last : List Event} (ending : Ending request progress last) :
    queries (.admitted :: (events ++ last)) = queries events := by
  have silent : queries last = [] := List.filterMap_eq_nil_iff.2 ending.silent
  change queries (events ++ last) = queries events
  rw [queries_append, silent, List.append_nil]

/-- The end of a request is at most one event. -/
theorem Ending.pairwise {request : Request} {progress : Progress Json} {last : List Event}
    (ending : Ending request progress last) {relation : Event → Event → Prop} :
    last.Pairwise relation := by
  cases ending with
  | waiting => exact .nil
  | dropped => exact List.pairwise_singleton ..
  | answered => exact List.pairwise_singleton ..

/-- What leads to a query of an admitted request is its admission and a part of its course. -/
theorem Ending.asked_prefix {request : Request} {progress : Progress Json}
    {events last before : List Event} {query : Query} (ending : Ending request progress last)
    (asked : before ++ [.asked query] <+: .admitted :: (events ++ last)) :
    ∃ front, before = .admitted :: front ∧ front ++ [.asked query] <+: events := by
  cases before with
  | nil =>
    have first := (List.cons_prefix_cons.1 asked).1
    contradiction
  | cons admission front =>
    obtain ⟨rfl, within⟩ := List.cons_prefix_cons.1 asked
    refine ⟨front, rfl, ?_⟩
    cases ending with
    | waiting => rwa [List.append_nil] at within
    | dropped => exact asked_prefix_of_concat rfl within
    | answered => exact asked_prefix_of_concat rfl within

/-- An admitted request for accounts that was not dropped is answered as it should be. -/
theorem AccountsCourse.answer {request : Request} {events last : List Event}
    {progress : Progress Json} (path : AccountsCourse request.origin events progress)
    (ending : Ending request progress last) (stays : .cancelled ∉ last) :
    AccountsAnswer request (.admitted :: (events ++ last)) := by
  cases path with
  | @waiting _ front query scripted kept next =>
    cases ending with
    | waiting =>
      rw [List.append_nil]
      exact .waiting (.admitted :: front) query
    | dropped => exact absurd (List.mem_singleton_self _) stays
  | @failed _ front query scripted kept error =>
    cases ending
    have answered : AccountsAnswer request _ := .failed (.admitted :: front) query error
    simpa [Response.ofOutcome] using answered
  | known nonempty =>
    cases ending
    exact .known nonempty
  | granted value accounts =>
    cases ending
    exact .granted value accounts

/-- A request that is refused asks nothing. -/
theorem AccountsConduct.of_refused (request : Request) (error : Error) :
    AccountsConduct request [.responded (.failure request.id error)] where
  shape := .inl List.nil_prefix
  noneFound before origin asked := by
    have nothing : before ++ [.asked (.approval origin)] <+: [] := asked_prefix_of_concat rfl asked
    simp at nothing
  approved before origin value asked := by
    have nothing : before ++ [.asked (.grant origin value)] <+: [] :=
      asked_prefix_of_concat rfl asked
    simp at nothing
  stops := List.pairwise_singleton ..
  answer admitted := by simp at admitted

/-- A request for accounts that is admitted keeps to a script until it ends. -/
theorem AccountsConduct.of_course {request : Request} {events last : List Event}
    {progress : Progress Json} (asks : request.method = requestAccountsMethod)
    (course : request.dialogue.Course events progress) (ending : Ending request progress last) :
    AccountsConduct request (.admitted :: (events ++ last)) := by
  have path := accountsCourse asks course
  have kept : ∀ before query, before ++ [.asked query] <+: .admitted :: (events ++ last) →
      ∃ front script, before = .admitted :: front ∧ Script request.origin script ∧
        front ++ [.asked query] <+: script := by
    intro before query asked
    obtain ⟨front, rfl, within⟩ := ending.asked_prefix asked
    obtain ⟨script, scripted, part⟩ := path.kept within
    exact ⟨front, script, rfl, scripted, part⟩
  constructor
  case shape =>
    rw [ending.queries_eq]
    obtain ⟨script, scripted, part⟩ := path.queries_prefix
    cases scripted with
    | known nonempty => exact .inl part
    | granted value accounts => exact .inr ⟨value, part⟩
  case noneFound =>
    intro before origin asked
    obtain ⟨front, script, rfl, scripted, part⟩ := kept before _ asked
    obtain ⟨same, exactly⟩ := scripted.before_approval part
    rw [exactly]
    exact ⟨same, rfl⟩
  case approved =>
    intro before origin value asked
    obtain ⟨front, script, rfl, scripted, part⟩ := kept before _ asked
    obtain ⟨same, exactly⟩ := scripted.before_grant part
    rw [exactly]
    exact ⟨same, rfl⟩
  case stops =>
    have quiet : (events ++ last).Pairwise fun earlier later =>
        earlier.isBreak = true → later.query? = none := by
      refine List.pairwise_append.2 ⟨course.nothing_after_break, ending.pairwise, ?_⟩
      intro _ _ event member _
      exact ending.silent event member
    exact List.pairwise_cons.2 ⟨fun _ _ broken => by contradiction, quiet⟩
  case answer =>
    intro _ stays
    apply path.answer ending
    intro dropped
    apply stays
    exact List.mem_cons_of_mem _ (List.mem_append_right _ dropped)

/-- A request for accounts behaves so if its events are told. -/
theorem Told.accountsConduct {request : Request} {events : List Event}
    (told : Told request events) (asks : request.method = requestAccountsMethod) :
    AccountsConduct request events := by
  cases told with
  | refused error => exact .of_refused request error
  | admitted course ending => exact .of_course asks course ending

/-- Only requests for accounts ask for grants. -/
theorem Told.asks_of_grant {request : Request} {events : List Event} {origin : String}
    {value : Authorization} (told : Told request events)
    (granted : .asked (.grant origin value) ∈ events) :
    request.method = requestAccountsMethod := by
  apply Classical.byContradiction
  intro other
  have asked : .grant origin value ∈ queries events :=
    List.mem_filterMap.2 ⟨_, granted, rfl⟩
  cases told with
  | refused error => simp [queries, Event.query?] at asked
  | @admitted events last progress course ending =>
    rw [ending.queries_eq, Request.queries_of_not_asks other course] at asked
    have only := List.mem_singleton.1 asked
    unfold Request.onlyQuery at only
    split at only <;> contradiction

/-- Where the log tells of a grant, it told before of the approval of this authorization for the
same request, which is a request for accounts of the origin. -/
theorem Sound.approved_before_grant {σ : Type} {history : History σ} (sound : Sound none history)
    {before after : List Entry} {number : Nat} {request : Request} {origin : String}
    {value : Authorization}
    (log : history.log = before ++ ⟨number, request, .asked (.grant origin value)⟩ :: after) :
    request.method = requestAccountsMethod ∧ request.origin = origin ∧
      ⟨number, request, .answered (.approval origin) (.ok value)⟩ ∈ before := by
  have member : ⟨number, request, .asked (.grant origin value)⟩ ∈ history.log := by
    rw [log]
    exact List.mem_append_right _ List.mem_cons_self
  have told := sound.told member
  have asked : eventsOf before number ++ [.asked (.grant origin value)] <+:
      eventsOf history.log number := by
    rw [log]
    exact ⟨eventsOf after number, by simp [eventsOf]⟩
  have happened : .asked (.grant origin value) ∈ eventsOf history.log number :=
    asked.subset (List.mem_append_right _ (List.mem_singleton_self _))
  have asks := told.asks_of_grant happened
  obtain ⟨same, exactly⟩ := (told.accountsConduct asks).approved _ _ _ asked
  refine ⟨asks, same.symm, ?_⟩
  -- The approval is among the events of the same number, and one number is one request.
  have approval : .answered (.approval origin) (.ok value) ∈ eventsOf before number := by
    rw [exactly, same]
    simp
  obtain ⟨entry, earlier, sameNumber, sameEvent⟩ := mem_eventsOf.1 approval
  have inLog : entry ∈ history.log := by
    rw [log]
    exact List.mem_append_left _ earlier
  have whole : entry.request = request :=
    sound.disciplined.same_request entry inLog _ member sameNumber
  rw [← sameNumber, ← whole, ← sameEvent]
  exact earlier

/-- Between two things that one request does under its lock no other request that needs this lock
does anything but being refused. -/
theorem Disciplined.undisturbed {started : Nat} {locks : LockSet} {log : List Entry}
    (disciplined : Disciplined started locks log) {before between after : List Entry}
    {number : Nat} {request : Request} {first second : Event}
    (whole : log = before ++ ⟨number, request, first⟩ :: (between ++
      ⟨number, request, second⟩ :: after))
    (firstWork : first.isResponse = false) (secondWork : second.isResponse = false)
    {entry : Entry} (member : entry ∈ between) (work : entry.event.isResponse = false)
    (rivals : entry.Rivals ⟨number, request, second⟩) : entry.number = number := by
  have serial := disciplined.serial
  rw [whole] at serial
  obtain ⟨-, later, -⟩ := List.pairwise_append.1 serial
  obtain ⟨fromFirst, rest⟩ := List.pairwise_cons.1 later
  obtain ⟨-, -, toSecond⟩ := List.pairwise_append.1 rest
  have notBefore := fromFirst entry (List.mem_append_left _ member) firstWork work
    ⟨rivals.2.1, rivals.1, rivals.2.2.symm⟩
  have notAfter := toSecond entry member _ List.mem_cons_self work secondWork rivals
  exact Nat.le_antisymm notAfter notBefore

/-- No grant without the approval of the same request: after any steps whatever, every request for
accounts behaves as it should, every grant follows the approval of its authorization for its own
request, and between the two no other request for accounts of the origin is admitted or asks. -/
theorem grant_follows_approval {σ : Type} (host : Host σ) (gate : Gate) (world : σ)
    (steps : List (Step σ)) :
    (History.after host gate world steps).shown =
      ((System.initial world).replies host gate steps).flatMap Reply.shown ∧
    (∀ entry ∈ (History.after host gate world steps).log,
      entry.request.method = requestAccountsMethod →
      AccountsConduct entry.request
        (eventsOf (History.after host gate world steps).log entry.number)) ∧
    (∀ before after number request origin value,
      (History.after host gate world steps).log =
        before ++ ⟨number, request, .asked (.grant origin value)⟩ :: after →
      request.method = requestAccountsMethod ∧ request.origin = origin ∧
        ⟨number, request, .answered (.approval origin) (.ok value)⟩ ∈ before) ∧
    (∀ before between after number request origin value,
      (History.after host gate world steps).log =
        before ++ ⟨number, request, .asked (.approval origin)⟩ :: (between ++
          ⟨number, request, .asked (.grant origin value)⟩ :: after) →
      ∀ entry ∈ between, entry.request.method = requestAccountsMethod →
        entry.request.origin = origin → entry.number ≠ number →
        ∃ response, entry.event = .responded response) := by
  have sound := Sound.sound_after host gate world steps
  have conduct : ∀ entry ∈ (History.after host gate world steps).log,
      entry.request.method = requestAccountsMethod →
      AccountsConduct entry.request
        (eventsOf (History.after host gate world steps).log entry.number) :=
    fun entry member asks => (sound.told member).accountsConduct asks
  refine ⟨History.shown_after host gate world steps, conduct, ?_, ?_⟩
  · intro before after number request origin value log
    exact sound.approved_before_grant log
  · intro before between after number request origin value log entry member asks same apart
    have granted : (History.after host gate world steps).log =
        (before ++ ⟨number, request, .asked (.approval origin)⟩ :: between) ++
          ⟨number, request, .asked (.grant origin value)⟩ :: after := by
      rw [log, List.append_assoc, List.cons_append]
    obtain ⟨requestAsks, requestOrigin, -⟩ := sound.approved_before_grant granted
    have rivals : entry.Rivals ⟨number, request, .asked (.grant origin value)⟩ :=
      ⟨decide_eq_true asks, decide_eq_true requestAsks, same.trans requestOrigin.symm⟩
    have response : entry.event.isResponse = true := by
      apply Bool.of_not_eq_false
      intro work
      exact apart (sound.disciplined.undisturbed log rfl rfl member work rivals)
    cases happened : entry.event with
    | responded response => exact ⟨response, rfl⟩
    | admitted | asked | answered | cancelled =>
      rw [happened] at response
      contradiction

/-- A request that waits for its approval while another one of its origin is turned away is granted
the authorization that was approved for it. -/
theorem grant_follows_approval_despite_rival :
    let origin := "https://dapp.example"
    let request : Request := { id := .number 1, method := requestAccountsMethod, origin }
    let rival : Request := { id := .number 2, method := requestAccountsMethod, origin }
    let wallet : ScriptedWallet := { blocked := [.approval], grantAccounts := some ["0xaa"] }
    let log := (History.after (ScriptedWallet.host .nothing) .standard wallet
      [.start "a" request, .start "b" rival, .resume "a"]).log
    AccountsConduct request (eventsOf log 0) ∧
      ∃ before between after, log = before ++ ⟨0, request, .asked (.approval origin)⟩ ::
          (between ++ ⟨0, request, .asked (.grant origin .empty)⟩ :: after) ∧
        (∃ entry ∈ between, entry.number = 1 ∧ ∃ response, entry.event = .responded response) ∧
        ⟨0, request, .answered (.approval origin) (.ok .empty)⟩ ∈
          before ++ ⟨0, request, .asked (.approval origin)⟩ :: between := by
  intro origin request rival wallet log
  obtain ⟨-, conduct, approved, refused⟩ := grant_follows_approval (ScriptedWallet.host .nothing)
    .standard wallet [.start "a" request, .start "b" rival, .resume "a"]
  let before : List Entry := [⟨0, request, .admitted⟩,
    ⟨0, request, .asked (.accounts origin true)⟩,
    ⟨0, request, .answered (.accounts origin true) (.ok [])⟩]
  let between : List Entry := [⟨1, rival, .responded (.failure rival.id busyError)⟩,
    ⟨0, request, .answered (.approval origin) (.ok .empty)⟩]
  let after : List Entry := [⟨0, request, .answered (.grant origin .empty) (.ok ())⟩,
    ⟨0, request, .asked (.accounts origin true)⟩,
    ⟨0, request, .answered (.accounts origin true) (.ok ["0xaa"])⟩,
    ⟨0, request, .responded (.success request.id (.ofStrings ["0xaa"]))⟩]
  have told : log = before ++ ⟨0, request, .asked (.approval origin)⟩ ::
      (between ++ ⟨0, request, .asked (.grant origin .empty)⟩ :: after) := rfl
  have member : (⟨0, request, .admitted⟩ : Entry) ∈ log := by
    rw [told]
    exact List.mem_cons_self
  have behaves : AccountsConduct request (eventsOf log 0) := conduct _ member rfl
  have answered := refused before between after 0 request origin .empty told _ List.mem_cons_self
    rfl rfl (by decide)
  have granted : log = (before ++ ⟨0, request, .asked (.approval origin)⟩ :: between) ++
      ⟨0, request, .asked (.grant origin .empty)⟩ :: after := by
    rw [List.append_assoc]
    exact told
  obtain ⟨-, -, approval⟩ := approved _ after 0 request origin .empty granted
  exact ⟨behaves, before, between, after, told, ⟨_, List.mem_cons_self, rfl, answered⟩, approval⟩

end WalletCore.Rpc
