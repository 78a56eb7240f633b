import WalletCore.Proofs.Json.Reading
import WalletCore.Proofs.Json.Records
import WalletCore.Rpc.Message

/-! # Responses on the wire

A response that is written arrives as it was, except that null stands for what is missing: a null
result is not there any more, and neither are null data of an error. The code of an error arrives as
the code that its number stands for. An error that was itself received has neither null data nor
another code for its number, so the outcome of a handler survives unless it is a success with the
null value (`outcome_survives_iff`).
-/
namespace WalletCore.Rpc

open Json

/-- A number stands for a code with this number. -/
theorem ErrorCode.number_ofNumber (number : Int64) : (ofNumber number).number = number := by
  unfold ofNumber
  repeat' split
  all_goals simp_all [ErrorCode.number]

namespace Id

/-- What is written of an id, and nothing else, stands for it. -/
theorem ofJson?_eq_some_iff {json : Json} {id : Id} :
    ofJson? json = some id ↔ json = id.toJson := by
  constructor
  · intro read
    cases json with
    | string text =>
      cases read
      rfl
    | null =>
      cases read
      rfl
    | number number =>
      cases number with
      | float value => contradiction
      | integer value inRange =>
        rw [ofJson?] at read
        split at read
        · rename_i sign
          obtain ⟨natural, rfl⟩ := Int.eq_ofNat_of_zero_le sign
          have bounded : natural < UInt64.size := by
            have above := inRange.2
            simp only [UInt64.size]
            omega
          cases read
          simp only [toJson, Number.ofUInt64, Int.toNat_natCast, UInt64.toNat_ofNat_of_lt' bounded]
        · contradiction
    | bool | array | object => contradiction
  · rintro rfl
    cases id with
    | number word =>
      have converted : UInt64.ofNat (word.toNat : Int).toNat = word := by simp
      simp only [toJson, ofJson?, Number.ofUInt64, Int.natCast_nonneg, ↓reduceIte, converted]
    | string text => rfl
    | null => rfl

/-- An id is decoded from what is written of it only. -/
theorem decoder_ofJson_eq_ok_iff {json : Json} {id : Id} :
    decoder.ofJson json = .ok id ↔ json = id.toJson := by
  rw [← ofJson?_eq_some_iff]
  simp only [decoder]
  cases ofJson? json <;> simp

/-- An id is decoded from what is written of it. -/
theorem decoder_toJson (id : Id) : decoder.ofJson id.toJson = .ok id :=
  decoder_ofJson_eq_ok_iff.2 rfl

/-- An id can be stored without brackets. -/
theorem storable_toJson (depth : Nat) (id : Id) : Storable depth id.toJson := by
  cases id with
  | number word => exact .number depth (.integer _ _)
  | string value => exact .string depth value
  | null => exact .null depth

/-- An id is restored from its written form. -/
theorem decoder_restores {layout : Layout} (plain : layout.Plain) (id : Id) {depth length : Nat}
    (indent : Nat) (enough : (write layout indent id.toJson).length < length) :
    Restores (decoder.read ⟨depth, length⟩) (write layout indent id.toJson) id := by
  have value := restores_write plain (storable_toJson depth id) indent enough
  have decoded := decoder_toJson id
  refine ⟨value.solid, fun {blanks rest} blank delimited => ?_⟩
  have read := value.read blank delimited
  simp only [decoder, Decoder.any] at decoded ⊢
  rw [read, ok_bind, decoded]
  rfl

end Id

namespace Error

/-- An error as it arrives: its code is the one that the number stands for, and null data are
missing. -/
def delivered (error : Error) : Error where
  code := .ofNumber error.code.number
  message := error.message
  data := error.data.filter (· ≠ .null)

/-- The members of an error that is written. -/
theorem toJson_eq (error : Error) : error.toJson =
    .object (("code", .number (.ofInt64 error.code.number)) ::
      ("message", .string error.message) ::
        ((error.data.elim [] fun data => [("data", data)]) ++ [])) := by
  rw [List.append_nil]
  rfl

/-- The members of an error have distinct names. -/
theorem nodup_members (error : Error) :
    (Entries.names (("code", Json.number (.ofInt64 error.code.number)) ::
      ("message", .string error.message) ::
        ((error.data.elim [] fun data => [("data", data)]) ++ []))).Nodup := by
  cases error.data <;> simp [Entries.names]

/-- The draft that the members of an error fill is the error as it arrives. -/
theorem finish_members (error : Error) :
    let draft : Draft :=
      { code := some (.ofNumber error.code.number), message := some error.message }
    record.finish (error.data.elim draft fun data =>
      { draft with data := some ((some data).filter (· ≠ .null)) }) = .ok error.delivered := by
  intro draft
  unfold delivered
  cases error.data <;> rfl

/-- An error is decoded from what is written of it as it arrives. -/
theorem decoder_toJson (error : Error) : decoder.ofJson error.toJson = .ok error.delivered := by
  have number := Decoder.signed_ofInt64 error.code.number
  have text : Decoder.string.ofJson (.string error.message) = .ok error.message := rfl
  rw [toJson_eq]
  exact Record.Takes.ofJson (.field rfl (Decoder.map_ofJson number _)
    (.field rfl (Decoder.map_ofJson text _) (.optional rfl
      (fun data => Decoder.map_ofJson (Decoder.any_optional_ofJson data) _) (.done _))))
    error.nodup_members error.finish_members

/-- An error is restored from its written form as it arrives, if its data can be stored within one
bracket less. -/
theorem decoder_restores {layout : Layout} (plain : layout.Plain) {error : Error}
    {depth length : Nat} (storable : ∀ data, error.data = some data → Storable depth data)
    (indent : Nat) (enough : (write layout indent error.toJson).length < length) :
    Restores (decoder.read ⟨depth + 1, length⟩) (write layout indent error.toJson)
      error.delivered := by
  rw [toJson_eq] at enough ⊢
  obtain ⟨shorter, -⟩ := length_write_object plain indent _
  have parts := fun member inside => Nat.lt_trans (shorter member inside).2 enough
  have number := Decoder.signed_restores ⟨depth, length⟩ error.code.number
  have text : Restores (Decoder.string.read ⟨depth, length⟩) (writeString error.message)
      error.message := Decoder.string_restores (parts ("message", .string error.message) (by simp))
  have data : ∀ data, error.data = some data →
      Restores (Decoder.any.optional.read ⟨depth, length⟩) (write layout (indent + 1) data)
        ((some data).filter (· ≠ .null)) := fun data found =>
    Decoder.any_optional_restores plain (storable data found) (indent + 1)
      (parts ("data", data) (by simp [found]))
  exact Record.read_restores plain indent (.field rfl rfl (Decoder.map_restores _ number)
    (.field rfl rfl (Decoder.map_restores _ text) (.optional rfl rfl
      (fun stored found => Decoder.map_restores _ (data stored found)) (.done _))))
    error.finish_members enough

/-- Whether an error was received: decoded from a JSON value, or read from text. -/
inductive Received (error : Error) : Prop where
  /-- It was decoded from a value. -/
  | decoded {json : Json} (decoded : decoder.ofJson json = .ok error) : Received error
  /-- It was read from a text. -/
  | read {text : String} (read : decoder.ofText text = .ok error) : Received error

/-- Whether the fields of an error that were read will arrive as they are. -/
structure Draft.Arrives (draft : Draft) : Prop where
  /-- The code is the one that its number stands for. -/
  code : ∀ code, draft.code = some code → ErrorCode.ofNumber code.number = code
  /-- The data are not null. -/
  data : draft.data ≠ some (some .null)

/-- The error of such fields arrives as it is. -/
theorem Draft.Arrives.delivered_eq {draft : Draft} {error : Error} (arrives : draft.Arrives)
    (finished : record.finish draft = .ok error) : error.delivered = error := by
  obtain ⟨code, required, finished⟩ := bind_eq_ok_iff.1 finished
  obtain ⟨message, -, finished⟩ := bind_eq_ok_iff.1 finished
  cases finished
  have stored := Record.require_eq_ok_iff.1 required
  simp only [delivered, arrives.code code stored, Decoder.filter_join_of_ne_null arrives.data]

/-- A field lets the others arrive and arrives itself. -/
theorem record_upholds : record.Upholds Draft.Arrives := by
  intro field member
  simp only [record, List.mem_cons, List.not_mem_nil, or_false] at member
  rcases member with rfl | rfl | rfl
  · refine Decoder.returns_map fun number draft arrives => ⟨fun code same => ?_, arrives.data⟩
    cases same
    rw [ErrorCode.number_ofNumber]
  · exact Decoder.returns_map fun message draft arrives => ⟨arrives.code, arrives.data⟩
  · refine Decoder.any_optional_returns.map fun data notNull draft arrives => ⟨arrives.code, ?_⟩
    exact fun null => notNull (Option.some.inj null)

/-- An error that a decoder returns arrives as it is. -/
theorem decoder_returns : decoder.Returns fun error => error.delivered = error :=
  record_upholds.returns ⟨nofun, nofun⟩ fun _ _ arrives => arrives.delivered_eq

/-- An error that was received arrives as it is. -/
theorem Received.delivered_eq {error : Error} (received : error.Received) :
    error.delivered = error := by
  cases received with
  | decoded decoded => exact decoder_returns.decoded decoded
  | read read => exact decoder_returns.of_received (.read read)

end Error

namespace Response

/-- A response as it arrives: a null result is missing, and its error is as it arrives. -/
def delivered (response : Response) : Response where
  version := response.version
  id := response.id
  result := response.result.filter (· ≠ .null)
  error := response.error.map Error.delivered

/-- The members of a response that is written. -/
def members (response : Response) : List (String × Json) :=
  ("jsonrpc", .string response.version) :: ("id", response.id.toJson) ::
    ((response.result.elim [] fun result => [("result", result)]) ++
      ((response.error.elim [] fun error => [("error", error.toJson)]) ++ []))

/-- A response is written as the object of its members. -/
theorem toJson_eq (response : Response) : response.toJson = .object response.members := by
  rw [members, List.append_nil]
  rfl

/-- The members of a response have distinct names. -/
theorem nodup_members (response : Response) : (Entries.names response.members).Nodup := by
  unfold members
  cases response.result <;> cases response.error <;> simp [Entries.names]

/-- The draft that the members of a response fill is the response as it arrives. -/
theorem finish_members (response : Response) :
    let draft : Draft := { version := some response.version, id := some response.id }
    let answered := response.result.elim draft fun result =>
      { draft with result := some ((some result).filter (· ≠ .null)) }
    record.finish (response.error.elim answered fun error =>
      { answered with error := some (some error.delivered) }) = .ok response.delivered := by
  intro draft answered
  simp only [answered]
  unfold delivered
  cases response.result <;> cases response.error <;> rfl

/-- A response is decoded from what is written of it as it arrives. -/
theorem decoder_toJson (response : Response) :
    decoder.ofJson response.toJson = .ok response.delivered := by
  have version : Decoder.string.ofJson (.string response.version) = .ok response.version := rfl
  have failure : ∀ error : Error,
      Error.decoder.optional.ofJson error.toJson = .ok (some error.delivered) := by
    intro error
    have notNull : error.toJson ≠ .null := nofun
    exact (Decoder.optional_ofJson_eq_ok_iff notNull).2 ⟨_, error.decoder_toJson, rfl⟩
  rw [toJson_eq]
  exact Record.Takes.ofJson (.field rfl (Decoder.map_ofJson version _)
    (.field rfl (Decoder.map_ofJson response.id.decoder_toJson _)
      (.optional rfl (fun result => Decoder.map_ofJson (Decoder.any_optional_ofJson result) _)
        (.optional rfl (fun error => Decoder.map_ofJson (failure error) _) (.done _)))))
    response.nodup_members response.finish_members

/-- Whether what a response carries can be stored within the brackets that are left for it. -/
structure Storable (response : Response) : Prop where
  /-- The result stands behind one bracket. -/
  result : ∀ result, response.result = some result → Json.Storable 126 result
  /-- The data of the error stand behind two brackets. -/
  data : ∀ error data, response.error = some error → error.data = some data →
    Json.Storable 125 data

/-- A response that can be stored is read from its written form as it arrives. -/
theorem ofText_compact {response : Response} (storable : response.Storable) :
    decoder.ofText response.toJson.compact = .ok response.delivered := by
  have plain := Layout.plain_compact
  let length := (write .compact 0 response.toJson).length + 1
  have enough : (write .compact 0 (.object response.members)).length < length := by
    rw [← toJson_eq]
    exact Nat.lt_succ_self _
  obtain ⟨shorter, -⟩ := length_write_object plain 0 response.members
  have parts := fun member inside => Nat.lt_trans (shorter member inside).2 enough
  have version : Restores (Decoder.string.read ⟨126, length⟩) (writeString response.version)
      response.version :=
    Decoder.string_restores (parts ("jsonrpc", .string response.version) (by simp [members]))
  have id : Restores (Id.decoder.read ⟨126, length⟩) (write .compact 1 response.id.toJson)
      response.id :=
    response.id.decoder_restores plain 1 (parts ("id", response.id.toJson) (by simp [members]))
  have result : ∀ result, response.result = some result →
      Restores (Decoder.any.optional.read ⟨126, length⟩) (write .compact 1 result)
        ((some result).filter (· ≠ .null)) := fun result found =>
    Decoder.any_optional_restores plain (storable.result result found) 1
      (parts ("result", result) (by simp [members, found]))
  have failure : ∀ error, response.error = some error →
      Restores (Error.decoder.optional.read ⟨126, length⟩) (write .compact 1 error.toJson)
        (some error.delivered) := fun error found =>
    Decoder.optional_restores
      (error.decoder_restores plain (storable.data error · found) 1
        (parts ("error", error.toJson) (by simp [members, found])))
      (by simp [Error.toJson_eq, write, Layout.enclose, writeMembers])
  have whole : Restores (record.read ⟨127, length⟩) (write .compact 0 response.toJson)
      response.delivered := by
    rw [toJson_eq]
    exact Record.read_restores plain 0 (.field rfl rfl (Decoder.map_restores _ version)
      (.field rfl rfl (Decoder.map_restores _ id)
        (.optional rfl rfl (fun stored found => Decoder.map_restores _ (result stored found))
          (.optional rfl (by cases response.result <;> rfl)
            (fun stored found => Decoder.map_restores _ (failure stored found)) (.done _)))))
      response.finish_members enough
  exact whole.ofText

/-- The answer with a null result arrives without one. -/
theorem delivered_success_null (id : Id) :
    (success id .null).delivered = { id, result := none, error := none } := rfl

/-- The answer to a request arrives as it is exactly if it is not a success with the null value. -/
theorem delivered_ofOutcome_eq_iff (id : Id) {outcome : Except Error Json}
    (received : ∀ error, outcome = .error error → error.Received) :
    (ofOutcome id outcome).delivered = ofOutcome id outcome ↔ outcome ≠ .ok .null := by
  cases outcome with
  | error error =>
    refine iff_of_true ?_ nofun
    simp only [ofOutcome, failure, delivered, Option.map_some, (received error rfl).delivered_eq]
    rfl
  | ok result =>
    constructor
    · rintro same ⟨⟩
      rw [ofOutcome, delivered_success_null] at same
      exact Option.some_ne_none _ (congrArg Response.result same).symm
    · intro other
      have notNull : result ≠ .null := fun null => other (congrArg Except.ok null)
      simp [ofOutcome, success, delivered, notNull]

/-- The answer to a request survives being written and decoded, from a JSON value or from its text,
unless it is a success with the null value, which arrives as an answer without a result. -/
theorem outcome_survives_iff (id : Id) {outcome : Except Error Json}
    (received : ∀ error, outcome = .error error → error.Received) :
    let response := ofOutcome id outcome
    (decoder.ofJson response.toJson = .ok response ↔ outcome ≠ .ok .null) ∧
      (outcome = .ok .null →
        decoder.ofJson response.toJson = .ok { id, result := none, error := none }) ∧
      (response.Storable →
        decoder.ofText response.toJson.compact = decoder.ofJson response.toJson) := by
  intro response
  rw [decoder_toJson]
  refine ⟨?_, ?_, fun storable => ofText_compact storable⟩
  · rw [Except.ok.injEq]
    exact delivered_ofOutcome_eq_iff id received
  · rintro rfl
    exact congrArg Except.ok (delivered_success_null id)

/-- A failure with data survives, also in its text. -/
theorem outcome_survives_iff_of_failure :
    let error : Error :=
      { code := .ofNumber 4001, message := "no", data := some (.array [.bool true]) }
    let response := ofOutcome (.string "7") (.error error)
    error.Received ∧ response.Storable ∧
      decoder.ofText response.toJson.compact = .ok response := by
  intro error response
  have received : error.Received := by
    have json : Error.decoder.ofJson (.array [.number (.ofInt64 4001), .string "no",
      .array [.bool true]]) = .ok error := rfl
    exact .decoded json
  have storable : response.Storable := by
    refine ⟨nofun, fun other data found stored => ?_⟩
    cases found
    cases stored
    exact .array (List.forall_mem_singleton.2 (.bool _ _))
  have every : ∀ other, (.error error : Except Error Json) = .error other → other.Received := by
    rintro other ⟨⟩
    exact received
  obtain ⟨survives, -, fromText⟩ := outcome_survives_iff (.string "7") every
  refine ⟨received, storable, ?_⟩
  rw [fromText storable]
  exact survives.2 nofun

/-- The answer with a null result does not survive: it arrives without a result and without an
error. -/
theorem null_result_lost :
    let response := ofOutcome (.number 1) (.ok .null)
    response.result = some .null ∧
      ∃ arrived, decoder.ofJson response.toJson = .ok arrived ∧ arrived ≠ response ∧
        arrived.result = none ∧ arrived.error = none := by
  intro response
  refine ⟨rfl, _, decoder_toJson response, ?_, rfl, rfl⟩
  decide

end Response

end WalletCore.Rpc
