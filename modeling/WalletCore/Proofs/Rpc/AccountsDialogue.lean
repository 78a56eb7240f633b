import WalletCore.Proofs.Rpc.Course

/-! # The dialogues of requests

A request for accounts asks for the accounts of its origin. If there are any it waits for the
unlocked wallet; if there are none it asks for an approval, grants what was approved and asks for
the accounts again. The two ways in which it can succeed are its scripts, and every course of it
keeps to a script until it stops (`accountsCourse`). Every other request asks a single query
(`queries_of_not_asks`).
-/
namespace WalletCore.Rpc

namespace Dialogue

variable {σ α : Type}

/-- The ways through a dialogue that asks a query first. -/
theorem course_ask_iff {query : Query} {next : query.Answer → Dialogue α} {events : List Event}
    {progress : Progress α} :
    Course (.ask query next) events progress ↔
      (events = [.asked query] ∧ progress = .parked query next) ∨
      (∃ error, events = [.asked query, .answered query (.error error)] ∧
        progress = .ended (.error error)) ∨
      ∃ answer rest, events = .asked query :: .answered query (.ok answer) :: rest ∧
        Course (next answer) rest progress := by
  constructor
  · intro course
    cases course with
    | waiting => exact .inl ⟨rfl, rfl⟩
    | failed query next error => exact .inr (.inl ⟨error, rfl, rfl⟩)
    | goesOn answer rest => exact .inr (.inr ⟨answer, _, rfl, rest⟩)
  · rintro (⟨rfl, rfl⟩ | ⟨error, rfl, rfl⟩ | ⟨answer, rest, rfl, course⟩)
    · exact .waiting query next
    · exact .failed query next error
    · exact .goesOn answer course

/-- The way through a dialogue that is over. -/
theorem course_done_iff {outcome : Except Error α} {events : List Event} {progress : Progress α} :
    Course (.done outcome) events progress ↔ events = [] ∧ progress = .ended outcome := by
  constructor
  · intro course
    cases course
    exact ⟨rfl, rfl⟩
  · rintro ⟨rfl, rfl⟩
    exact .finished outcome

/-- The first query of a run is the first query of its dialogue. -/
theorem asked_run_ask (host : Host σ) (world : σ) (query : Query)
    (next : query.Answer → Dialogue α) :
    ∃ rest, ((Dialogue.ask query next).run host world).asked = query :: rest := by
  rw [run]
  split
  · exact ⟨[], rfl⟩
  · rcases host.answer world query with ⟨error | answer, after⟩
    · exact ⟨[], rfl⟩
    · exact ⟨_, rfl⟩

end Dialogue

namespace Request

/-- The dialogue of a request for accounts, query by query. -/
theorem dialogue_requestAccounts {request : Request}
    (asks : request.method = requestAccountsMethod) :
    request.dialogue =
      .ask (.accounts request.origin true) fun (known : List String) =>
        if known.isEmpty then
          .ask (.approval request.origin) fun (value : Authorization) =>
            .ask (.grant request.origin value) fun (_ : Unit) =>
              .ask (.accounts request.origin true) fun (accounts : List String) =>
                .done (.ok (.ofStrings accounts))
        else .ask (.unlock true) fun (_ : Unit) => .done (.ok (.ofStrings known)) := by
  rw [dialogue, if_pos asks]
  change Dialogue.ask _ _ = Dialogue.ask _ _
  congr 1
  funext known
  cases known with
  | nil => rfl
  | cons account others => rfl

/-- The one query of a request that is not for accounts in this sense. -/
def onlyQuery (request : Request) : Query :=
  if request.method = Gate.accountsMethod then .accounts request.origin false
  else .forward request

/-- A request that is not for accounts asks its one query, and nothing before or after it. -/
theorem queries_of_not_asks {request : Request} {events : List Event} {progress : Progress Json}
    (other : request.method ≠ requestAccountsMethod)
    (course : request.dialogue.Course events progress) :
    queries events = [request.onlyQuery] := by
  have single : ∀ {query : Query} (result : query.Answer → Json),
      Dialogue.Course (.ask query fun answer => .done (.ok (result answer))) events progress →
      queries events = [query] := by
    intro query result course
    rcases Dialogue.course_ask_iff.1 course with
      ⟨rfl, -⟩ | ⟨error, rfl, -⟩ | ⟨answer, rest, rfl, finished⟩
    · rfl
    · rfl
    · rw [(Dialogue.course_done_iff.1 finished).1]
      rfl
  rw [dialogue, if_neg other] at course
  unfold onlyQuery
  split at course
  · rename_i current
    rw [if_pos current]
    exact single Json.ofStrings course
  · rename_i elsewhere
    rw [if_neg elsewhere]
    exact single (fun answer => answer) course

end Request

/-- What happens to a request of an origin that has accounts. -/
def knownScript (origin : String) (known : List String) : List Event := [
  .asked (.accounts origin true), .answered (.accounts origin true) (.ok known),
  .asked (.unlock true), .answered (.unlock true) (.ok ())]

/-- What happens to a request of an origin that is granted an authorization. -/
def grantScript (origin : String) (value : Authorization) (accounts : List String) :
    List Event := [
  .asked (.accounts origin true), .answered (.accounts origin true) (.ok []),
  .asked (.approval origin), .answered (.approval origin) (.ok value),
  .asked (.grant origin value), .answered (.grant origin value) (.ok ()),
  .asked (.accounts origin true), .answered (.accounts origin true) (.ok accounts)]

/-- The scripts of the requests of an origin. -/
inductive Script (origin : String) : List Event → Prop where
  /-- The origin has accounts. -/
  | known {known : List String} (nonempty : known ≠ []) : Script origin (knownScript origin known)
  /-- The origin is granted an authorization. -/
  | granted (value : Authorization) (accounts : List String) :
    Script origin (grantScript origin value accounts)

/-- A script that leads to a query for an approval found no accounts, and did nothing else. -/
theorem Script.before_approval {origin other : String} {script before : List Event}
    (scripted : Script origin script) (kept : before ++ [.asked (.approval other)] <+: script) :
    other = origin ∧
      before = [.asked (.accounts origin true), .answered (.accounts origin true) (.ok [])] := by
  obtain ⟨after, whole⟩ := kept
  cases scripted with
  | known nonempty => simp [knownScript, List.append_eq_cons_iff, List.cons_eq_append_iff] at whole
  | granted value accounts =>
    simp [grantScript, List.append_eq_cons_iff, List.cons_eq_append_iff] at whole
    grind

/-- A script that leads to a grant got the approval of just this authorization. -/
theorem Script.before_grant {origin other : String} {value : Authorization}
    {script before : List Event} (scripted : Script origin script)
    (kept : before ++ [.asked (.grant other value)] <+: script) :
    other = origin ∧
      before = [.asked (.accounts origin true), .answered (.accounts origin true) (.ok []),
        .asked (.approval origin), .answered (.approval origin) (.ok value)] := by
  obtain ⟨after, whole⟩ := kept
  cases scripted with
  | known nonempty => simp [knownScript, List.append_eq_cons_iff, List.cons_eq_append_iff] at whole
  | granted approved accounts =>
    simp [grantScript, List.append_eq_cons_iff, List.cons_eq_append_iff] at whole
    grind

/-- How far a request of an origin keeps to a script. -/
inductive AccountsCourse (origin : String) : List Event → Progress Json → Prop where
  /-- It waits for the answer to a query of the script. -/
  | waiting {script : List Event} (front : List Event) {query : Query}
      (scripted : Script origin script) (kept : front ++ [.asked query] <+: script)
      (next : query.Answer → Dialogue Json) :
    AccountsCourse origin (front ++ [.asked query]) (.parked query next)
  /-- A query of the script failed. -/
  | failed {script : List Event} (front : List Event) {query : Query}
      (scripted : Script origin script) (kept : front ++ [.asked query] <+: script)
      (error : Error) :
    AccountsCourse origin (front ++ [.asked query] ++ [.answered query (.error error)])
      (.ended (.error error))
  /-- The origin has accounts, and the wallet is unlocked. -/
  | known {known : List String} (nonempty : known ≠ []) :
    AccountsCourse origin (knownScript origin known) (.ended (.ok (.ofStrings known)))
  /-- The origin was granted an authorization. -/
  | granted (value : Authorization) (accounts : List String) :
    AccountsCourse origin (grantScript origin value accounts) (.ended (.ok (.ofStrings accounts)))

/-- Every course of a request for accounts keeps to a script. -/
theorem accountsCourse {request : Request} {events : List Event} {progress : Progress Json}
    (asks : request.method = requestAccountsMethod)
    (course : request.dialogue.Course events progress) :
    AccountsCourse request.origin events progress := by
  rw [Request.dialogue_requestAccounts asks] at course
  -- Before the approval is answered, any authorization continues the script.
  have undecided : Script request.origin (grantScript request.origin .empty []) := .granted ..
  rcases Dialogue.course_ask_iff.1 course with
    ⟨rfl, rfl⟩ | ⟨error, rfl, rfl⟩ | ⟨known, afterKnown, rfl, onKnown⟩
  · exact .waiting [] undecided ⟨_, rfl⟩ _
  · exact .failed [] undecided ⟨_, rfl⟩ error
  cases known with
  | cons account others =>
    have nonempty : account :: others ≠ [] := List.cons_ne_nil account others
    rcases Dialogue.course_ask_iff.1 onKnown with
      ⟨rfl, rfl⟩ | ⟨error, rfl, rfl⟩ | ⟨_, afterUnlock, rfl, onUnlock⟩
    · exact .waiting [_, _] (.known nonempty) ⟨_, rfl⟩ _
    · exact .failed [_, _] (.known nonempty) ⟨_, rfl⟩ error
    · obtain ⟨rfl, rfl⟩ := Dialogue.course_done_iff.1 onUnlock
      exact .known nonempty
  | nil =>
    rcases Dialogue.course_ask_iff.1 onKnown with
      ⟨rfl, rfl⟩ | ⟨error, rfl, rfl⟩ | ⟨value, afterApproval, rfl, onApproval⟩
    · exact .waiting [_, _] undecided ⟨_, rfl⟩ _
    · exact .failed [_, _] undecided ⟨_, rfl⟩ error
    have approved : Script request.origin (grantScript request.origin value []) := .granted ..
    rcases Dialogue.course_ask_iff.1 onApproval with
      ⟨rfl, rfl⟩ | ⟨error, rfl, rfl⟩ | ⟨_, afterGrant, rfl, onGrant⟩
    · exact .waiting [_, _, _, _] approved ⟨_, rfl⟩ _
    · exact .failed [_, _, _, _] approved ⟨_, rfl⟩ error
    rcases Dialogue.course_ask_iff.1 onGrant with
      ⟨rfl, rfl⟩ | ⟨error, rfl, rfl⟩ | ⟨accounts, afterAccounts, rfl, onAccounts⟩
    · exact .waiting [_, _, _, _, _, _] approved ⟨_, rfl⟩ _
    · exact .failed [_, _, _, _, _, _] approved ⟨_, rfl⟩ error
    obtain ⟨rfl, rfl⟩ := Dialogue.course_done_iff.1 onAccounts
    exact .granted value accounts

namespace AccountsCourse

variable {origin : String} {events : List Event} {progress : Progress Json}

/-- What leads to a query is the beginning of a script. -/
theorem kept (course : AccountsCourse origin events progress) {before : List Event}
    {query : Query} (asked : before ++ [.asked query] <+: events) :
    ∃ script, Script origin script ∧ before ++ [.asked query] <+: script := by
  cases course with
  | waiting front scripted kept => exact ⟨_, scripted, asked.trans kept⟩
  | failed front scripted kept error =>
    have earlier := asked_prefix_of_concat rfl asked
    exact ⟨_, scripted, earlier.trans kept⟩
  | known nonempty => exact ⟨_, .known nonempty, asked⟩
  | granted value accounts => exact ⟨_, .granted value accounts, asked⟩

/-- The queries are the first queries of a script. -/
theorem queries_prefix (course : AccountsCourse origin events progress) :
    ∃ script, Script origin script ∧ queries events <+: queries script := by
  cases course with
  | waiting front scripted kept => exact ⟨_, scripted, kept.filterMap _⟩
  | @failed _ front query scripted kept error =>
    refine ⟨_, scripted, ?_⟩
    have silent : queries [.answered query (.error error)] = [] := rfl
    rw [queries_append, silent, List.append_nil]
    exact kept.filterMap _
  | known nonempty => exact ⟨_, .known nonempty, List.prefix_rfl⟩
  | granted value accounts => exact ⟨_, .granted value accounts, List.prefix_rfl⟩

end AccountsCourse

end WalletCore.Rpc
