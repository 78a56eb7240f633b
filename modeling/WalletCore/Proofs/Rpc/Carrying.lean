import Mathlib.Data.List.Forall2
import WalletCore.Permission.Caveat
import WalletCore.Proofs.Json.Parts
import WalletCore.Proofs.Rpc.Wire

/-! # What is decoded carries what came

A message or a permission that is decoded is written with the members of the value that it came
from, whether they were given by name or in order: with the last one of each name, except that a
member that is null and may be missing is left out. A failure in a response and the caveats of a
permission do so in turn. Members that no field takes are lost.
-/
namespace WalletCore

open Json

/-! ## Words and lists -/

/-- A signed word is decoded from its number only. -/
theorem Decoder.eq_of_signed_ofJson {json : Json} {word : Int64}
    (decoded : Decoder.signed.ofJson json = .ok word) : json = .number (.ofInt64 word) := by
  cases json with
  | number number =>
    cases number with
    | float value => contradiction
    | integer value inRange =>
      simp only [Decoder.signed, Decoder.numeric] at decoded
      split at decoded
      · rename_i most
        cases decoded
        have least : Int64.minValue.toInt ≤ value := inRange.1
        have kept : (Int64.ofInt value).toInt = value := Int64.toInt_ofInt_of_le least (by
          have limit : Int64.maxValue.toInt = 2 ^ 63 - 1 := rfl
          omega)
        simp only [Number.ofInt64, kept]
      · contradiction
  | null | bool | string | array | object => contradiction

/-- A list is decoded from an array of as many items, each of which is decoded as the value in its
place. -/
theorem Decoder.list_ofJson_eq_ok_iff_forall₂ {α : Type} {item : Decoder α} {json : Json}
    {values : List α} :
    (Decoder.list item).ofJson json = .ok values ↔ ∃ items, json = .array items ∧
      List.Forall₂ (fun part value => item.ofJson part = .ok value) items values := by
  cases json with
  | array items =>
    simp only [Decoder.list, Json.array.injEq, exists_eq_left']
    induction items generalizing values with
    | nil =>
      rw [List.mapM_nil, List.forall₂_nil_left_iff]
      exact ⟨fun same => (Except.ok.inj same).symm, fun same => congrArg Except.ok same.symm⟩
    | cons first rest ih =>
      rw [List.mapM_cons, List.forall₂_cons_left_iff, bind_eq_ok_iff]
      simp only [bind_eq_ok_iff, ih]
      constructor
      · rintro ⟨value, here, others, later, same⟩
        cases same
        exact ⟨value, others, here, later, rfl⟩
      · rintro ⟨value, others, here, later, rfl⟩
        exact ⟨value, here, others, later, rfl⟩
  | null | bool | number | string | object =>
    exact iff_of_false (fun decoded => by contradiction) (by simp)

namespace Rpc

/-! ## Requests -/

namespace Request

/-- No two fields of a request have one name. -/
theorem record_distinct : record.Distinct := by
  unfold Record.Distinct
  decide

/-- Each part of a request is set by the field of its name, and by no other. -/
theorem record_decides :
    record.Decides "jsonrpc" .string Draft.version ∧ record.Decides "id" Id.decoder Draft.id ∧
      record.Decides "method" .string Draft.method ∧
      record.Decides "params" Decoder.any.optional Draft.params ∧
      record.Decides "origin" .string Draft.origin := by
  refine ⟨.of_map rfl (fun _ _ => rfl) ?_ rfl, .of_map rfl (fun _ _ => rfl) ?_ rfl,
    .of_map rfl (fun _ _ => rfl) ?_ rfl, .of_map rfl (fun _ _ => rfl) ?_ rfl,
    .of_map rfl (fun _ _ => rfl) ?_ rfl⟩
  -- One of the fields is the part's own, and the others set other parts.
  all_goals simp [record]

/-- Whether a request is written with the members of the value that it was decoded from. -/
structure Carries (json : Json) (request : Request) : Prop where
  /-- The version is the one that came. -/
  version : request.toJson.get? "jsonrpc" = (record.membersOf json).lookup "jsonrpc"
  /-- The id is the one that came. -/
  id : request.toJson.get? "id" = (record.membersOf json).lookup "id"
  /-- The method is the one that came. -/
  method : request.toJson.get? "method" = (record.membersOf json).lookup "method"
  /-- The parameters are those that came, unless they were null. -/
  params : request.toJson.get? "params" =
    ((record.membersOf json).lookup "params").filter (· ≠ .null)
  /-- The origin is the one that came. -/
  origin : request.toJson.get? "origin" = (record.membersOf json).lookup "origin"

/-- A request that is decoded is written with the members that it came with. -/
theorem carries_of_decoded {json : Json} {request : Request}
    (decoded : decoder.ofJson json = .ok request) : request.Carries json := by
  obtain ⟨draft, filled, finished⟩ := record_distinct.exists_draft decoded
  obtain ⟨version, hasVersion, finished⟩ := bind_eq_ok_iff.1 finished
  obtain ⟨id, hasId, finished⟩ := bind_eq_ok_iff.1 finished
  obtain ⟨method, hasMethod, finished⟩ := bind_eq_ok_iff.1 finished
  obtain ⟨origin, hasOrigin, finished⟩ := bind_eq_ok_iff.1 finished
  cases finished
  rw [Record.require_eq_ok_iff] at hasVersion hasId hasMethod hasOrigin
  obtain ⟨ofVersion, ofId, ofMethod, ofParams, ofOrigin⟩ := record_decides
  constructor
  · rw [ofVersion.lookup_eq_some record_distinct filled Decoder.string_ofJson_eq_ok_iff.1
      hasVersion]
    rfl
  · rw [ofId.lookup_eq_some record_distinct filled Id.decoder_ofJson_eq_ok_iff.1 hasId]
    rfl
  · rw [ofMethod.lookup_eq_some record_distinct filled Decoder.string_ofJson_eq_ok_iff.1
      hasMethod]
    rfl
  · rw [← ofParams.join_eq_filter record_distinct filled]
    unfold toJson
    cases draft.params.join <;> rfl
  · rw [ofOrigin.lookup_eq_some record_distinct filled Decoder.string_ofJson_eq_ok_iff.1
      hasOrigin]
    unfold toJson
    cases draft.params.join <;> rfl

end Request

/-! ## Errors -/

namespace Error

/-- No two fields of an error have one name. -/
theorem record_distinct : record.Distinct := by
  unfold Record.Distinct
  decide

/-- Each part of an error is set by the field of its name, and by no other; of the code the number
is. -/
theorem record_decides :
    record.Decides "code" .signed (fun draft => draft.code.map ErrorCode.number) ∧
      record.Decides "message" .string Draft.message ∧
      record.Decides "data" Decoder.any.optional Draft.data := by
  refine ⟨.of_map rfl (fun number _ => congrArg some (ErrorCode.number_ofNumber number)) ?_ rfl,
    .of_map rfl (fun _ _ => rfl) ?_ rfl, .of_map rfl (fun _ _ => rfl) ?_ rfl⟩
  all_goals simp [record]

/-- Whether an error is written with the members of the value that it was decoded from. -/
structure Carries (json : Json) (error : Error) : Prop where
  /-- The code is the one that came. -/
  code : error.toJson.get? "code" = (record.membersOf json).lookup "code"
  /-- The message is the one that came. -/
  message : error.toJson.get? "message" = (record.membersOf json).lookup "message"
  /-- The data are those that came, unless they were null. -/
  data : error.toJson.get? "data" =
    ((record.membersOf json).lookup "data").filter (· ≠ .null)

/-- The data of an error are written as they are, if there are any. -/
theorem get?_data (error : Error) : error.toJson.get? "data" = error.data := by
  rw [toJson_eq]
  cases error.data <;> rfl

/-- An error that is decoded is written with the members that it came with. -/
theorem carries_of_decoded {json : Json} {error : Error}
    (decoded : decoder.ofJson json = .ok error) : error.Carries json := by
  obtain ⟨draft, filled, finished⟩ := record_distinct.exists_draft decoded
  obtain ⟨code, hasCode, finished⟩ := bind_eq_ok_iff.1 finished
  obtain ⟨message, hasMessage, finished⟩ := bind_eq_ok_iff.1 finished
  cases finished
  rw [Record.require_eq_ok_iff] at hasCode hasMessage
  have hasNumber := congrArg (Option.map ErrorCode.number) hasCode
  obtain ⟨ofCode, ofMessage, ofData⟩ := record_decides
  constructor
  · rw [ofCode.lookup_eq_some record_distinct filled Decoder.eq_of_signed_ofJson hasNumber]
    rfl
  · rw [ofMessage.lookup_eq_some record_distinct filled Decoder.string_ofJson_eq_ok_iff.1
      hasMessage]
    rfl
  · rw [get?_data, ← ofData.join_eq_filter record_distinct filled]

end Error

/-! ## Responses -/

namespace Response

/-- No two fields of a response have one name. -/
theorem record_distinct : record.Distinct := by
  unfold Record.Distinct
  decide

/-- Each part of a response is set by the field of its name, and by no other. -/
theorem record_decides :
    record.Decides "jsonrpc" .string Draft.version ∧ record.Decides "id" Id.decoder Draft.id ∧
      record.Decides "result" Decoder.any.optional Draft.result ∧
      record.Decides "error" Error.decoder.optional Draft.error := by
  refine ⟨.of_map rfl (fun _ _ => rfl) ?_ rfl, .of_map rfl (fun _ _ => rfl) ?_ rfl,
    .of_map rfl (fun _ _ => rfl) ?_ rfl, .of_map rfl (fun _ _ => rfl) ?_ rfl⟩
  all_goals simp [record]

/-- Whether a response is written with the members of the value that it was decoded from. -/
structure Carries (json : Json) (response : Response) : Prop where
  /-- The version is the one that came. -/
  version : response.toJson.get? "jsonrpc" = (record.membersOf json).lookup "jsonrpc"
  /-- The id is the one that came. -/
  id : response.toJson.get? "id" = (record.membersOf json).lookup "id"
  /-- The result is the one that came, unless it was null. -/
  result : response.toJson.get? "result" =
    ((record.membersOf json).lookup "result").filter (· ≠ .null)
  /-- There is an error if one came that was not null, and it carries that one. -/
  error : Option.Rel (fun part error => error.Carries part)
    (((record.membersOf json).lookup "error").filter (· ≠ .null)) response.error
  /-- The error is written as it is, if there is one. -/
  failure : response.toJson.get? "error" = response.error.map Error.toJson

/-- A response that is decoded is written with the members that it came with. -/
theorem carries_of_decoded {json : Json} {response : Response}
    (decoded : decoder.ofJson json = .ok response) : response.Carries json := by
  obtain ⟨draft, filled, finished⟩ := record_distinct.exists_draft decoded
  obtain ⟨version, hasVersion, finished⟩ := bind_eq_ok_iff.1 finished
  obtain ⟨id, hasId, finished⟩ := bind_eq_ok_iff.1 finished
  cases finished
  rw [Record.require_eq_ok_iff] at hasVersion hasId
  obtain ⟨ofVersion, ofId, ofResult, ofError⟩ := record_decides
  constructor
  · rw [ofVersion.lookup_eq_some record_distinct filled Decoder.string_ofJson_eq_ok_iff.1
      hasVersion]
    rfl
  · rw [ofId.lookup_eq_some record_distinct filled Id.decoder_ofJson_eq_ok_iff.1 hasId]
    rfl
  · rw [← ofResult.join_eq_filter record_distinct filled]
    unfold toJson
    cases draft.result.join <;> cases draft.error.join <;> rfl
  · have related := ofError.rel_join record_distinct filled
    generalize ((record.membersOf json).lookup "error").filter (· ≠ .null) = part at related ⊢
    generalize draft.error.join = error at related ⊢
    cases related with
    | none => exact .none
    | some read => exact .some (Error.carries_of_decoded read)
  · unfold toJson
    cases draft.result.join <;> cases draft.error.join <;> rfl

end Response

end Rpc

/-! ## Permissions -/

namespace Permission

namespace Caveat

/-- No two fields of a caveat have one name. -/
theorem record_distinct : record.Distinct := by
  unfold Record.Distinct
  decide

/-- Each part of a caveat is set by the field of its name, and by no other. -/
theorem record_decides :
    record.Decides "type" .string Prod.fst ∧ record.Decides "value" .any Prod.snd := by
  refine ⟨.of_map rfl (fun _ _ => rfl) ?_ rfl, .of_map rfl (fun _ _ => rfl) ?_ rfl⟩
  all_goals simp [record]

/-- Whether a caveat is written with the members of the value that it was decoded from. -/
structure Carries (json : Json) (caveat : Caveat) : Prop where
  /-- The type is the one that came. -/
  type : caveat.toJson.get? "type" = (record.membersOf json).lookup "type"
  /-- The value is the one that came. -/
  value : caveat.toJson.get? "value" = (record.membersOf json).lookup "value"

/-- A caveat that is decoded is written with the members that it came with. -/
theorem carries_of_decoded {json : Json} {caveat : Caveat}
    (decoded : decoder.ofJson json = .ok caveat) : caveat.Carries json := by
  obtain ⟨draft, filled, finished⟩ := record_distinct.exists_draft decoded
  obtain ⟨type, hasType, finished⟩ := bind_eq_ok_iff.1 finished
  obtain ⟨value, hasValue, finished⟩ := bind_eq_ok_iff.1 finished
  cases finished
  rw [Record.require_eq_ok_iff] at hasType hasValue
  have itself : ∀ {part value : Json}, Decoder.any.ofJson part = .ok value → part = value :=
    fun same => Except.ok.inj same
  constructor
  · rw [record_decides.1.lookup_eq_some record_distinct filled Decoder.string_ofJson_eq_ok_iff.1
      hasType]
    rfl
  · rw [record_decides.2.lookup_eq_some record_distinct filled itself hasValue]
    rfl

end Caveat

namespace Grant

/-- No two fields of a permission have one name. -/
theorem record_distinct : record.Distinct := by
  unfold Record.Distinct
  decide

/-- Each part of a permission is set by the field of its name, and by no other. -/
theorem record_decides :
    record.Decides "parentCapability" .string Draft.capability ∧
      record.Decides "invoker" .string Draft.invoker ∧
      record.Decides "caveats" (.list Caveat.decoder) Draft.caveats := by
  refine ⟨.of_map rfl (fun _ _ => rfl) ?_ rfl, .of_map rfl (fun _ _ => rfl) ?_ rfl,
    .of_map rfl (fun _ _ => rfl) ?_ rfl⟩
  all_goals simp [record]

/-- Whether a permission is written with the members of the value that it was decoded from. -/
structure Carries (json : Json) (grant : Grant) : Prop where
  /-- The name is the one that came. -/
  capability : grant.toJson.get? "parentCapability" =
    (record.membersOf json).lookup "parentCapability"
  /-- The invoker is the one that came. -/
  invoker : grant.toJson.get? "invoker" = (record.membersOf json).lookup "invoker"
  /-- There are as many caveats as came, and each of them carries the one in its place. -/
  caveats : ∃ items, (record.membersOf json).lookup "caveats" = some (.array items) ∧
    List.Forall₂ (fun item caveat => caveat.Carries item) items grant.caveats
  /-- The caveats are written as they are. -/
  listed : grant.toJson.get? "caveats" = some (.array (grant.caveats.map Caveat.toJson))

/-- A permission that is decoded is written with the members that it came with. -/
theorem carries_of_decoded {json : Json} {grant : Grant}
    (decoded : decoder.ofJson json = .ok grant) : grant.Carries json := by
  obtain ⟨draft, filled, finished⟩ := record_distinct.exists_draft decoded
  obtain ⟨capability, hasCapability, finished⟩ := bind_eq_ok_iff.1 finished
  obtain ⟨invoker, hasInvoker, finished⟩ := bind_eq_ok_iff.1 finished
  obtain ⟨caveats, hasCaveats, finished⟩ := bind_eq_ok_iff.1 finished
  cases finished
  rw [Record.require_eq_ok_iff] at hasCapability hasInvoker hasCaveats
  obtain ⟨ofCapability, ofInvoker, ofCaveats⟩ := record_decides
  constructor
  · rw [ofCapability.lookup_eq_some record_distinct filled Decoder.string_ofJson_eq_ok_iff.1
      hasCapability]
    rfl
  · rw [ofInvoker.lookup_eq_some record_distinct filled Decoder.string_ofJson_eq_ok_iff.1
      hasInvoker]
    rfl
  · obtain ⟨part, found, read⟩ :=
      (ofCaveats.component_eq_some_iff record_distinct filled).1 hasCaveats
    obtain ⟨items, rfl, each⟩ := Decoder.list_ofJson_eq_ok_iff_forall₂.1 read
    exact ⟨items, found, each.imp fun _ _ => Caveat.carries_of_decoded⟩
  · rfl

end Grant

end Permission

end WalletCore
