import WalletCore.Proofs.Permission.Format
import WalletCore.Proofs.Rpc.Carrying

/-! # Decoding normalises once and for all

What is decoded may have been given by name or in order, with members that nobody reads, with null
for what is missing, or with the number of a code for the code. What is written of it has none of
this freedom, and it is decoded as the same value, whose written form is the same again
(`decoding_settles`), while it passes on the members that it came with.
-/
namespace WalletCore

open Json

/-- Whether a value that was received stays as it is, however often it is written and received. -/
structure Decoder.Settles {α : Type} (decoder : Decoder α) (write : α → Json) : Prop where
  /-- It is decoded from what is written of it. -/
  again : ∀ value, decoder.Received value → decoder.ofJson (write value) = .ok value
  /-- What is decoded so is written as before. -/
  alike : ∀ value decoded, decoder.Received value → decoder.ofJson (write value) = .ok decoded →
    write decoded = write value
  /-- It is read from its text, if what is written of it can be stored: if not too many brackets are
  open at a time and its numbers are integers. -/
  stored : ∀ value, decoder.Received value → (write value).Storable maxDepth →
    decoder.ofText (write value).compact = .ok value

/-- For a value to settle it is enough that it is decoded again and read again. -/
theorem Decoder.Settles.of_again {α : Type} {decoder : Decoder α} {write : α → Json}
    (again : ∀ value, decoder.Received value → decoder.ofJson (write value) = .ok value)
    (stored : ∀ value, decoder.Received value → (write value).Storable maxDepth →
      decoder.ofText (write value).compact = .ok value) : decoder.Settles write where
  again := again
  alike value decoded received same := by
    rw [again value received] at same
    cases same
    rfl
  stored := stored

namespace Rpc

/-! ## Requests -/

namespace Request

/-- A request as it arrives: null parameters are missing. -/
def delivered (request : Request) : Request :=
  { request with params := request.params.filter (· ≠ .null) }

/-- The members of a request that is written. -/
def members (request : Request) : List (String × Json) :=
  ("jsonrpc", .string request.version) :: ("id", request.id.toJson) ::
    ("method", .string request.method) ::
      ((request.params.elim [] fun params => [("params", params)]) ++
        [("origin", .string request.origin)])

/-- A request is written as the object of its members. -/
theorem toJson_eq (request : Request) : request.toJson = .object request.members := rfl

/-- The members of a request have distinct names. -/
theorem nodup_members (request : Request) : (Entries.names request.members).Nodup := by
  unfold members
  cases request.params <;> simp [Entries.names]

/-- The draft that the members of a request fill is the request as it arrives. -/
theorem finish_members (request : Request) :
    let draft : Draft :=
      { version := some request.version, id := some request.id, method := some request.method }
    let called := request.params.elim draft fun params =>
      { draft with params := some ((some params).filter (· ≠ .null)) }
    record.finish { called with origin := some request.origin } = .ok request.delivered := by
  intro draft called
  simp only [called]
  unfold delivered
  cases request.params <;> rfl

/-- A request is decoded from what is written of it as it arrives. -/
theorem decoder_toJson (request : Request) :
    decoder.ofJson request.toJson = .ok request.delivered := by
  have text : ∀ value : String, Decoder.string.ofJson (.string value) = .ok value := fun _ => rfl
  rw [toJson_eq]
  exact Record.Takes.ofJson (.field rfl (Decoder.map_ofJson (text request.version) _)
    (.field rfl (Decoder.map_ofJson request.id.decoder_toJson _)
      (.field rfl (Decoder.map_ofJson (text request.method) _)
        (.optional rfl (fun params => Decoder.map_ofJson (Decoder.any_optional_ofJson params) _)
          (.field rfl (Decoder.map_ofJson (text request.origin) _) (.done _))))))
    request.nodup_members request.finish_members

/-- A request that can be stored is read from its text as it arrives. -/
theorem ofText_compact {request : Request} (storable : Storable maxDepth request.toJson) :
    decoder.ofText request.toJson.compact = .ok request.delivered := by
  have plain := Layout.plain_compact
  let length := (write .compact 0 request.toJson).length + 1
  have enough : (write .compact 0 (.object request.members)).length < length :=
    Nat.lt_succ_self _
  obtain ⟨shorter, -⟩ := length_write_object plain 0 request.members
  have parts := fun member inside => Nat.lt_trans (shorter member inside).2 enough
  have text : ∀ name value, (name, .string value) ∈ request.members →
      Restores (Decoder.string.read ⟨126, length⟩) (writeString value) value :=
    fun name value inside => Decoder.string_restores (parts _ inside)
  have id : Restores (Id.decoder.read ⟨126, length⟩) (write .compact 1 request.id.toJson)
      request.id :=
    request.id.decoder_restores plain 1 (parts ("id", request.id.toJson) (by simp [members]))
  have params : ∀ params, request.params = some params →
      Restores (Decoder.any.optional.read ⟨126, length⟩) (write .compact 1 params)
        ((some params).filter (· ≠ .null)) := by
    intro params found
    have inside : ("params", params) ∈ request.members := by simp [members, found]
    cases storable with
    | object distinct inner =>
      exact Decoder.any_optional_restores plain (inner _ inside) 1 (parts _ inside)
  have whole : Restores (record.read ⟨127, length⟩) (write .compact 0 request.toJson)
      request.delivered := by
    rw [toJson_eq]
    exact Record.read_restores plain 0
      (.field rfl rfl (Decoder.map_restores _ (text "jsonrpc" request.version (by simp [members])))
        (.field rfl rfl (Decoder.map_restores _ id)
          (.field rfl rfl
            (Decoder.map_restores _ (text "method" request.method (by simp [members])))
            (.optional rfl rfl (fun stored found => Decoder.map_restores _ (params stored found))
              (.field rfl (by cases request.params <;> rfl)
                (Decoder.map_restores _ (text "origin" request.origin (by simp [members])))
                (.done _))))))
      request.finish_members enough
  exact whole.ofText

/-- Whether the parameters that were read, if any, are not null. -/
def Draft.Arrives (draft : Draft) : Prop := draft.params ≠ some (some .null)

/-- A field lets the parameters arrive. -/
theorem record_upholds : record.Upholds Draft.Arrives := by
  intro field member
  simp only [record, List.mem_cons, List.not_mem_nil, or_false] at member
  rcases member with rfl | rfl | rfl | rfl | rfl
  case inr.inr.inr.inl =>
    exact Decoder.any_optional_returns.map fun params notNull draft _ null =>
      notNull (Option.some.inj null)
  all_goals exact Decoder.returns_map fun _ draft arrives => arrives

/-- A request that a decoder returns arrives as it is. -/
theorem decoder_returns : decoder.Returns fun request => request.delivered = request := by
  refine record_upholds.returns nofun fun draft request arrives finished => ?_
  obtain ⟨version, -, finished⟩ := bind_eq_ok_iff.1 finished
  obtain ⟨id, -, finished⟩ := bind_eq_ok_iff.1 finished
  obtain ⟨method, -, finished⟩ := bind_eq_ok_iff.1 finished
  obtain ⟨origin, -, finished⟩ := bind_eq_ok_iff.1 finished
  cases finished
  simp only [delivered, Decoder.filter_join_of_ne_null arrives]

/-- Decoding settles requests. -/
theorem decoder_settles : decoder.Settles toJson := by
  refine .of_again (fun request received => ?_) (fun request received storable => ?_)
  · rw [decoder_toJson, decoder_returns.of_received received]
  · rw [ofText_compact storable, decoder_returns.of_received received]

end Request

/-! ## Errors -/

namespace Error

/-- The data of an error that can be stored stand behind one bracket. -/
theorem storable_data {depth : Nat} {error : Error} (storable : Storable (depth + 1) error.toJson)
    {data : Json} (found : error.data = some data) : Storable depth data :=
  storable.get? (error.get?_data.trans found)

/-- Decoding settles errors. -/
theorem decoder_settles : decoder.Settles toJson := by
  refine .of_again (fun error received => ?_) (fun error received storable => ?_)
  · rw [decoder_toJson, decoder_returns.of_received received]
  · have whole := decoder_restores Layout.plain_compact (fun data => storable_data storable) 0
      (Nat.lt_succ_self _)
    rw [decoder_returns.of_received received] at whole
    exact whole.ofText

end Error

/-! ## Responses -/

namespace Response

/-- Whether the fields of a response that were read will arrive as they are. -/
structure Draft.Arrives (draft : Draft) : Prop where
  /-- The result is not null. -/
  result : draft.result ≠ some (some .null)
  /-- The error arrives as it is. -/
  error : ∀ error, draft.error = some (some error) → error.delivered = error

/-- The response of such fields arrives as it is. -/
theorem Draft.Arrives.delivered_eq {draft : Draft} {response : Response} (arrives : draft.Arrives)
    (finished : record.finish draft = .ok response) : response.delivered = response := by
  obtain ⟨version, -, finished⟩ := bind_eq_ok_iff.1 finished
  obtain ⟨id, -, finished⟩ := bind_eq_ok_iff.1 finished
  cases finished
  have error : draft.error.join.map Error.delivered = draft.error.join := by
    cases found : draft.error.join with
    | none => rfl
    | some error => exact congrArg some (arrives.error error (Option.join_eq_some_iff.1 found))
  simp only [delivered, Decoder.filter_join_of_ne_null arrives.result, error]

/-- A field lets the others arrive and arrives itself. -/
theorem record_upholds : record.Upholds Draft.Arrives := by
  intro field member
  simp only [record, List.mem_cons, List.not_mem_nil, or_false] at member
  rcases member with rfl | rfl | rfl | rfl
  · exact Decoder.returns_map fun version draft arrives => ⟨arrives.result, arrives.error⟩
  · exact Decoder.returns_map fun id draft arrives => ⟨arrives.result, arrives.error⟩
  · refine Decoder.any_optional_returns.map fun result notNull draft arrives => ⟨?_, arrives.error⟩
    exact fun null => notNull (Option.some.inj null)
  · refine Error.decoder_returns.optional.map fun error each draft arrives => ⟨arrives.result, ?_⟩
    exact fun found same => each found (Option.some.inj same)

/-- A response that a decoder returns arrives as it is. -/
theorem decoder_returns : decoder.Returns fun response => response.delivered = response :=
  record_upholds.returns ⟨nofun, nofun⟩ fun _ _ arrives => arrives.delivered_eq

/-- What a response carries can be stored if the response can. -/
theorem storable_of_toJson {response : Response}
    (storable : Json.Storable maxDepth response.toJson) : response.Storable := by
  rw [toJson_eq] at storable
  cases storable with
  | object distinct inner =>
    refine ⟨fun result found => ?_, fun error data found stored => ?_⟩
    · exact inner ("result", result) (by simp [members, found])
    · have whole : Json.Storable 126 error.toJson :=
        inner ("error", error.toJson) (by simp [members, found])
      exact error.storable_data whole stored

/-- Decoding settles responses. -/
theorem decoder_settles : decoder.Settles toJson := by
  refine .of_again (fun response received => ?_) (fun response received storable => ?_)
  · rw [decoder_toJson, decoder_returns.of_received received]
  · rw [ofText_compact (storable_of_toJson storable), decoder_returns.of_received received]

end Response

end Rpc

/-- Decoding settles permissions. -/
theorem Permission.Grant.decoder_settles :
    Permission.Grant.decoder.Settles Permission.Grant.toJson :=
  .of_again (fun grant _ => grant.decoder_toJson) (fun _ _ storable => ofText_compact storable)

namespace Rpc

/-- Decoding normalises what is on the wire once and for all: requests, responses, errors and
permissions that were received stay as they are however often they are written and received again,
and they are written with the members that they came with, null for what is missing apart. Every
number is the number of the code that it stands for. -/
theorem decoding_settles :
    Request.decoder.Settles Request.toJson ∧ Response.decoder.Settles Response.toJson ∧
      Error.decoder.Settles Error.toJson ∧
      Permission.Grant.decoder.Settles Permission.Grant.toJson ∧
      (∀ number, (ErrorCode.ofNumber number).number = number) ∧
      (∀ json request, Request.decoder.ofJson json = .ok request → request.Carries json) ∧
      (∀ json response, Response.decoder.ofJson json = .ok response → response.Carries json) ∧
      (∀ json error, Error.decoder.ofJson json = .ok error → error.Carries json) ∧
      ∀ json grant, Permission.Grant.decoder.ofJson json = .ok grant → grant.Carries json :=
  ⟨Request.decoder_settles, Response.decoder_settles, Error.decoder_settles,
    Permission.Grant.decoder_settles, ErrorCode.number_ofNumber,
    fun _ _ => Request.carries_of_decoded, fun _ _ => Response.carries_of_decoded,
    fun _ _ => Error.carries_of_decoded, fun _ _ => Permission.Grant.carries_of_decoded⟩

/-- A request in order with null parameters, a response by name with a null result and an error in
order, an error by name with two codes, null data and a member that nobody reads, and a permission
in order with a caveat of two values: what is written of them is decoded as the same, also from its
text. -/
theorem decoding_settles_of_repeated :
    let sent : Json := .array [.string "2.0", .number (.ofUInt64 7), .string "eth_accounts", .null,
      .string "https://a.example"]
    let answered : Json := .object [("error", .array [.number (.ofInt64 4001), .string "no"]),
      ("result", .null), ("id", .number (.ofUInt64 7)), ("jsonrpc", .string "2.0")]
    let failed : Json := .object [("code", .number (.ofInt64 5)), ("data", .null),
      ("message", .string "no"), ("code", .number (.ofInt64 4001)), ("stack", .array [])]
    let granted : Json := .array [.string "eth_accounts", .string "https://a.example",
      .array [.object [("value", .null), ("type", .string "restrictReturnedAccounts"),
        ("value", .ofStrings ["0xaa"])]]]
    let request : Request :=
      { id := .number 7, method := "eth_accounts", origin := "https://a.example" }
    let error : Error := { code := .userRejectedRequest, message := "no" }
    let response : Response := { id := .number 7, error := some error }
    let grant : Permission.Grant :=
      ⟨"eth_accounts", "https://a.example", [⟨"restrictReturnedAccounts", .ofStrings ["0xaa"]⟩]⟩
    Request.decoder.ofJson sent = .ok request ∧
      Request.decoder.ofJson request.toJson = .ok request ∧ request.Carries sent ∧
      Response.decoder.ofJson answered = .ok response ∧
      Response.decoder.ofJson response.toJson = .ok response ∧ response.Carries answered ∧
      Error.decoder.ofJson failed = .ok error ∧
      Error.decoder.ofText error.toJson.compact = .ok error ∧ error.Carries failed ∧
      Permission.Grant.decoder.ofJson granted = .ok grant ∧
      Permission.Grant.decoder.ofJson grant.toJson = .ok grant ∧
      Permission.Grant.decoder.ofText grant.toJson.compact = .ok grant ∧ grant.Carries granted := by
  intro sent answered failed granted request error response grant
  have decoded : Request.decoder.ofJson sent = .ok request := rfl
  have decodedResponse : Response.decoder.ofJson answered = .ok response := rfl
  have decodedError : Error.decoder.ofJson failed = .ok error := rfl
  have decodedGrant : Permission.Grant.decoder.ofJson granted = .ok grant := rfl
  have storable : error.toJson.Storable maxDepth :=
    .object (by decide) (List.forall_mem_cons.2
      ⟨.number _ (.integer _ _), List.forall_mem_singleton.2 (.string _ _)⟩)
  have storableGrant : grant.toJson.Storable maxDepth := by
    refine .object (by decide) (List.forall_mem_cons.2 ⟨.string _ _, List.forall_mem_cons.2
      ⟨.string _ _, List.forall_mem_singleton.2 (.array (List.forall_mem_singleton.2 ?_))⟩⟩)
    refine .object (by decide) (List.forall_mem_cons.2 ⟨.string _ _, ?_⟩)
    exact List.forall_mem_singleton.2 (.array (List.forall_mem_singleton.2 (.string _ _)))
  obtain ⟨requests, responses, errors, grants, -, requestsCarry, responsesCarry, errorsCarry,
    grantsCarry⟩ := decoding_settles
  exact ⟨decoded, requests.again request (.decoded decoded), requestsCarry sent request decoded,
    decodedResponse, responses.again response (.decoded decodedResponse),
    responsesCarry answered response decodedResponse,
    decodedError, errors.stored error (.decoded decodedError) storable,
    errorsCarry failed error decodedError,
    decodedGrant, grants.again grant (.decoded decodedGrant),
    grants.stored grant (.decoded decodedGrant) storableGrant,
    grantsCarry granted grant decodedGrant⟩

end Rpc

end WalletCore
