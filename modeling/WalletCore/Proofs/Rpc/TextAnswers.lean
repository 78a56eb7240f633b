import WalletCore.Proofs.Rpc.Carrying
import WalletCore.Rpc.Dispatcher

/-! # Answers to texts

The id of an answer is found in two ways: a request that is decoded has one, and from an object that
is no request it is salvaged. Both come to the member of the name in the text, the last one if there
are several (`Request.identified`, `identifies_salvaged`). So what a text is answered with depends
on the text and on an outcome, and on nothing else (`answers_ofOutcome`, `answers_of_ofText_error`).
-/
namespace WalletCore.Rpc

/-! ## Ids -/

/-- The id under which a text is answered that has a certain member for it, or none: the string or
the word that the member is, and otherwise null. -/
inductive Identifies : Option Json → Id → Prop where
  /-- A string is an id. -/
  | string (text : String) : Identifies (some (.string text)) (.string text)
  /-- An unsigned word is an id. -/
  | word (value : UInt64) : Identifies (some (.number (.ofUInt64 value))) (.number value)
  /-- For anything else, and where there is nothing, the id is null. -/
  | other {member : Option Json} (noString : ∀ text, member ≠ some (.string text))
      (noWord : ∀ value : UInt64, member ≠ some (.number (.ofUInt64 value))) :
    Identifies member .null

/-- A member under which an id is written identifies it. -/
theorem identifies_toJson (id : Id) : Identifies (some id.toJson) id := by
  cases id with
  | number value => exact .word value
  | string text => exact .string text
  | null => exact .other (by simp [Id.toJson]) (by simp [Id.toJson])

/-- The id that is salvaged from a member, or from none, is that of the member. -/
theorem identifies_salvaged (member : Option Json) :
    Identifies member ((member.bind Id.ofJson?).getD .null) := by
  cases found : member.bind Id.ofJson? with
  | some id =>
    obtain ⟨json, rfl, read⟩ := Option.bind_eq_some_iff.1 found
    rw [Id.ofJson?_eq_some_iff.1 read]
    exact identifies_toJson id
  | none =>
    refine .other (fun text same => ?_) (fun value same => ?_)
    · rw [same] at found
      contradiction
    · have read : Id.ofJson? (.number (.ofUInt64 value)) = some (.number value) :=
        Id.ofJson?_eq_some_iff.2 rfl
      rw [same, Option.bind_some, read] at found
      contradiction

namespace Request

/-- A request that is decoded has the id of its member. -/
theorem identified {json : Json} {request : Request} (decoded : decoder.ofJson json = .ok request) :
    Identifies ((record.membersOf json).lookup "id") request.id := by
  rw [← (carries_of_decoded decoded).id]
  exact identifies_toJson request.id

/-- Whether a text holds a request. -/
def StandsIn (request : Request) (text : String) : Prop :=
  ∃ json, Decoder.any.ofText text = .ok json ∧ decoder.ofJson json = .ok request

/-- A text is taken as a request if it holds one. -/
theorem ofText_eq_ok_iff {text : String} {request : Request} :
    ofText text = .ok request ↔ request.StandsIn text := by
  unfold ofText StandsIn
  cases Decoder.any.ofText text with
  | error cause => simp
  | ok json =>
    simp only [Except.ok.injEq, exists_eq_left']
    cases decoder.ofJson json with
    | error cause => simp
    | ok found => simp

end Request

/-! ## Answers -/

/-- How a text is answered. -/
structure Answers (text : String) (response : Response) : Prop where
  /-- The version is that of the protocol. -/
  version : response.version = "2.0"
  /-- There is a result or an error, and not both. -/
  single : response.result.isSome = !response.error.isSome
  /-- What is not JSON is answered with a parse error under no id. -/
  unreadable : ∀ cause, Decoder.any.ofText text = .error cause →
    response.id = .null ∧ ∃ error, response.error = some error ∧ error.code = .parseError
  /-- An object is answered under its last member of the name of the id. -/
  object : ∀ fields, Decoder.any.ofText text = .ok (.object fields) →
    ∃ members, (Decoder.entries .any).ofText text = .ok members ∧
      Identifies (members.reverse.lookup "id") response.id
  /-- Whatever else holds a request, such as an array, is answered under the id of the request. -/
  request : ∀ request : Request, request.StandsIn text → response.id = request.id
  /-- JSON that is no request is answered with the error of invalid requests. -/
  malformed : ∀ json cause, Decoder.any.ofText text = .ok json →
    Request.decoder.ofJson json = .error cause →
      ∃ error, response.error = some error ∧ error.code = .invalidRequest

/-- A text that holds no request is answered as it should be. -/
theorem answers_of_ofText_error {text : String} {response : Response}
    (refused : Request.ofText text = .error response) : Answers text response := by
  have noRequest : ∀ request : Request, ¬ request.StandsIn text := by
    intro request stands
    rw [Request.ofText_eq_ok_iff.2 stands] at refused
    contradiction
  unfold Request.ofText at refused
  cases read : Decoder.any.ofText text with
  | error cause =>
    have noValue : ∀ json, Decoder.any.ofText text ≠ .ok json := by simp [read]
    rw [read] at refused
    cases refused
    exact {
      version := rfl
      single := rfl
      unreadable := fun _ _ => ⟨rfl, _, rfl, rfl⟩
      object := fun fields whole => absurd whole (noValue _)
      request := fun request stands => absurd stands (noRequest request)
      malformed := fun json _ whole => absurd whole (noValue json) }
  | ok json =>
    rw [read] at refused
    simp only at refused
    split at refused
    · contradiction
    · cases refused
      refine {
        version := rfl
        single := rfl
        unreadable := fun cause failed => ?_
        object := fun fields whole => ?_
        request := fun request stands => absurd stands (noRequest request)
        malformed := fun _ _ _ _ => ⟨_, rfl, rfl⟩ }
      · rw [read] at failed
        contradiction
      · obtain ⟨members, entries, rfl⟩ := Decoder.exists_entries_of_ofText whole
        cases read.symm.trans whole
        refine ⟨members, entries, ?_⟩
        rw [← Members.get?_ofList]
        exact identifies_salvaged _

/-- A text that holds a request is answered as it should be by the outcome of the request, under its
id. -/
theorem answers_ofOutcome {text : String} {request : Request} (stands : request.StandsIn text)
    (outcome : Except Error Json) : Answers text (.ofOutcome request.id outcome) := by
  obtain ⟨json, read, decoded⟩ := stands
  have id : (Response.ofOutcome request.id outcome).id = request.id := by cases outcome <;> rfl
  refine {
    version := by cases outcome <;> rfl
    single := by cases outcome <;> rfl
    unreadable := fun cause failed => ?_
    object := fun fields whole => ?_
    request := ?_
    malformed := fun other cause again malformed => ?_ }
  · rw [read] at failed
    contradiction
  · obtain ⟨members, entries, rfl⟩ := Decoder.exists_entries_of_ofText whole
    cases read.symm.trans whole
    have identified := Request.identified decoded
    have same : Members.ofList (Members.ofList members).entries = Members.ofList members :=
      Members.empty_putAll _
    rw [Record.membersOf, same] at identified
    rw [id]
    refine ⟨members, entries, ?_⟩
    rw [← Members.get?_ofList]
    exact identified
  · rintro other ⟨_, again, decodedAgain⟩
    cases read.symm.trans again
    cases decoded.symm.trans decodedAgain
    exact id
  · cases read.symm.trans again
    rw [decoded] at malformed
    contradiction

end WalletCore.Rpc
