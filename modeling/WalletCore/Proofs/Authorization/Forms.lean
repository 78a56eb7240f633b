import WalletCore.Proofs.Authorization.Format
import WalletCore.Proofs.Json.Parts

/-! # The forms of an authorization

One authorization may be given in many forms. Its parts are the members of an object, in any order
and with others among them, or the items of an array, in the order of the fields. The session
properties and the accounts of a scope may be left out when there are none. The forms are described
here by what stands in them (`StandsFor`), and they are the values that the decoder takes
(`decoder_ofJson_eq_ok_iff`).
-/
namespace WalletCore

/-- The part of a value that has one of some names: of an object the last member of the name, and of
an array the item in the place of the name. -/
def Json.part? (names : List String) (name : String) : Json → Option Json
  | .object members => (Members.ofList members).get? name
  | .array items => (names.zip items).lookup name
  | _ => none

/-- Whether a value is an object, or an array without items beyond the names. -/
def Json.HasParts (names : List String) : Json → Prop
  | .object _ => True
  | .array items => items.length ≤ names.length
  | _ => False

/-- The members that a record takes from a value are its parts. -/
theorem Record.lookup_membersOf {σ α : Type} (record : Record σ α) (json : Json) (name : String) :
    (record.membersOf json).lookup name = json.part? (record.fields.map (·.name)) name := by
  cases json <;> rfl

namespace Authorization

/-! ## Accounts and scopes -/

/-- Whether a value stands for the accounts of a scope: it has an array of them, or none if there
are none. -/
structure AccountsForm (json : Json) (accounts : List String) : Prop where
  /-- The value has no other shape. -/
  shape : json.HasParts ["accounts"]
  /-- The part is the array of the accounts. -/
  accounts : json.part? ["accounts"] "accounts" = some (.ofStrings accounts) ∨
    json.part? ["accounts"] "accounts" = none ∧ accounts = []

/-- Whether a value stands for scopes: it is an object whose members are those of the scopes by
their keys, and whatever it held under a key before stands for accounts too. -/
def ScopesForm (json : Json) (scopes : Table (List String)) : Prop :=
  ∃ members, json = .object members ∧
    (∀ member ∈ members, ∃ accounts, AccountsForm member.2 accounts) ∧
    ∀ key, Option.Rel AccountsForm ((Members.ofList members).get? key) (scopes.get? key)

/-- The record of a scope has one field. -/
theorem scopeRecord_distinct : scopeRecord.Distinct := by
  unfold Record.Distinct
  decide

/-- The accounts of a scope are set by the field. -/
theorem scopeRecord_decides : scopeRecord.Decides "accounts" (.list .string) id := by
  refine .of_map rfl (fun _ _ => rfl) ?_ rfl
  intro other member different
  cases List.mem_singleton.1 member
  exact absurd rfl different

/-- The record of a scope takes an object or an array of at most one item. -/
theorem scopeRecord_fits_iff {json : Json} :
    scopeRecord.Fits json ↔ json.HasParts ["accounts"] := by
  cases json with
  | array items =>
    refine and_iff_left fun field left => ?_
    cases List.mem_singleton.1 (List.mem_of_mem_drop left)
    rfl
  | null | bool | number | string | object => exact Iff.rfl

/-- What is taken from a value into the draft of a scope makes the accounts that the value stands
for. -/
theorem scopeRecord_finish_iff {json : Json} {draft : Option (List String)}
    {accounts : List String} (shape : json.HasParts ["accounts"])
    (filled : scopeRecord.fillByName scopeRecord.blank (scopeRecord.membersOf json) = .ok draft) :
    scopeRecord.finish draft = .ok accounts ↔ AccountsForm json accounts := by
  have finish : scopeRecord.finish draft = .ok accounts ↔ (id draft).getD [] = accounts := by
    simp [scopeRecord]
  have texts {part : Json} : (Decoder.list .string).ofJson part = .ok accounts ↔
      part = .ofStrings accounts := Decoder.list_ofJson_eq_ok_iff Decoder.string_ofJson_eq_ok_iff
  have member : (scopeRecord.membersOf json).lookup "accounts" =
      json.part? ["accounts"] "accounts" := scopeRecord.lookup_membersOf json _
  rw [finish, scopeRecord_decides.getD_component_eq_iff scopeRecord_distinct filled]
  simp only [member, texts, exists_eq_right]
  exact ⟨fun given => ⟨shape, given⟩, fun form => form.accounts⟩

/-- What stands for the accounts of a scope is taken into a draft. -/
theorem AccountsForm.exists_draft {json : Json} {accounts : List String}
    (form : AccountsForm json accounts) : ∃ draft,
      scopeRecord.fillByName scopeRecord.blank (scopeRecord.membersOf json) = .ok draft := by
  refine scopeRecord_distinct.exists_draft_iff.2 fun field listed part found => ?_
  cases List.mem_singleton.1 listed
  replace found := (scopeRecord.lookup_membersOf json _).symm.trans found
  rcases form.accounts with given | ⟨absent, -⟩
  · cases found.symm.trans given
    exact ⟨_, Decoder.map_ofJson (Decoder.list_string_ofStrings accounts) _⟩
  · cases found.symm.trans absent

/-- Accounts are decoded from their forms. -/
theorem scopeRecord_ofJson_eq_ok_iff {json : Json} {accounts : List String} :
    scopeRecord.decoder.ofJson json = .ok accounts ↔ AccountsForm json accounts := by
  refine scopeRecord_distinct.ofJson_eq_ok_iff.trans ?_
  rw [scopeRecord_fits_iff]
  constructor
  · rintro ⟨shape, draft, filled, finished⟩
    exact (scopeRecord_finish_iff shape filled).1 finished
  · intro form
    obtain ⟨draft, filled⟩ := form.exists_draft
    exact ⟨form.shape, draft, filled, (scopeRecord_finish_iff form.shape filled).2 form⟩

/-- Scopes are decoded from their forms. -/
theorem scopesDecoder_ofJson_eq_ok_iff {json : Json} {scopes : Table (List String)} :
    scopesDecoder.ofJson json = .ok scopes ↔ ScopesForm json scopes := by
  rw [scopesDecoder, Decoder.table_ofJson_eq_ok_iff, ScopesForm]
  simp only [scopeRecord_ofJson_eq_ok_iff]

/-! ## Authorizations -/

/-- The names of the parts of an authorization, in order. -/
def partNames : List String :=
  ["requiredScopes", "optionalScopes", "isMultichainOrigin", "sessionProperties"]

/-- Whether a value stands for an authorization. -/
structure StandsFor (json : Json) (value : Authorization) : Prop where
  /-- The value has no other shape. -/
  shape : json.HasParts partNames
  /-- A part stands for the required scopes. -/
  required : ∃ part, json.part? partNames "requiredScopes" = some part ∧
    ScopesForm part value.required
  /-- A part stands for the optional scopes. -/
  optional : ∃ part, json.part? partNames "optionalScopes" = some part ∧
    ScopesForm part value.optional
  /-- A part tells where the grant came from. -/
  multichain : json.part? partNames "isMultichainOrigin" = some (.bool value.multichain)
  /-- A part is the object of the session properties, or there are none. -/
  session : (∃ part, json.part? partNames "sessionProperties" = some part ∧
      ∃ members, part = .object members ∧ value.session = Members.ofList members) ∨
    json.part? partNames "sessionProperties" = none ∧ value.session = .empty

/-- No two fields of an authorization have one name. -/
theorem record_distinct : record.Distinct := by
  unfold Record.Distinct
  decide

/-- Each part of an authorization is set by the field of its name, and by no other. -/
theorem record_decides :
    record.Decides "requiredScopes" scopesDecoder Draft.required ∧
      record.Decides "optionalScopes" scopesDecoder Draft.optional ∧
      record.Decides "isMultichainOrigin" .bool Draft.multichain ∧
      record.Decides "sessionProperties" .members Draft.session := by
  refine ⟨.of_map rfl (fun _ _ => rfl) ?_ rfl, .of_map rfl (fun _ _ => rfl) ?_ rfl,
    .of_map rfl (fun _ _ => rfl) ?_ rfl, .of_map rfl (fun _ _ => rfl) ?_ rfl⟩
  -- One of the fields is the part's own, and the others set other parts.
  all_goals simp [record]

/-- A draft makes an authorization if it has all parts but the session properties. -/
theorem record_finish_eq_ok_iff {draft : Draft} {value : Authorization} :
    record.finish draft = .ok value ↔ draft.required = some value.required ∧
      draft.optional = some value.optional ∧ draft.multichain = some value.multichain ∧
      draft.session.getD .empty = value.session := by
  simp only [record, bind_eq_ok_iff, Record.require_eq_ok_iff, Except.ok.injEq]
  constructor
  · rintro ⟨required, given, optional, also, multichain, too, rfl⟩
    exact ⟨given, also, too, rfl⟩
  · rintro ⟨required, optional, multichain, session⟩
    exact ⟨_, required, _, optional, _, multichain, by rw [session]⟩

/-- The record of an authorization takes an object, or an array of three or four items. -/
theorem record_fits_iff {json : Json} :
    record.Fits json ↔
      json.HasParts partNames ∧ ∀ items, json = .array items → 3 ≤ items.length := by
  cases json with
  | array items =>
    simp only [Json.array.injEq, forall_eq']
    refine and_congr_right fun short => ?_
    rcases items with _ | ⟨first, _ | ⟨second, _ | ⟨third, rest⟩⟩⟩
    case cons.cons.cons =>
      refine iff_of_true (fun field left => ?_) (by simp)
      have last := List.mem_of_mem_drop (i := rest.length) left
      cases List.mem_singleton.1 last
      rfl
    all_goals simp [record]
  | null | bool | number | string => exact iff_of_false id fun both => both.1
  | object members => exact iff_of_true trivial ⟨trivial, fun _ impossible => by contradiction⟩

/-- A value that stands for an authorization is of the shape that the record takes. -/
theorem StandsFor.fits {json : Json} {value : Authorization} (stands : StandsFor json value) :
    record.Fits json := by
  refine record_fits_iff.2 ⟨stands.shape, ?_⟩
  rintro items rfl
  -- The third item is there, since it tells where the grant came from.
  have third := stands.multichain
  rcases items with _ | ⟨first, _ | ⟨second, _ | ⟨third, rest⟩⟩⟩
  case cons.cons.cons => simp
  all_goals simp [Json.part?, partNames, Entries.lookup_cons] at third

/-- The members that the record of an authorization takes from a value are its parts. -/
theorem lookup_membersOf (json : Json) (name : String) :
    (record.membersOf json).lookup name = json.part? partNames name :=
  record.lookup_membersOf json name

/-- What is taken from a value into the draft of an authorization makes the one that the value
stands for. -/
theorem record_finish_iff {json : Json} {draft : Draft} {value : Authorization}
    (shape : json.HasParts partNames)
    (filled : record.fillByName record.blank (record.membersOf json) = .ok draft) :
    record.finish draft = .ok value ↔ StandsFor json value := by
  obtain ⟨required, optional, multichain, session⟩ := record_decides
  rw [record_finish_eq_ok_iff, required.component_eq_some_iff record_distinct filled,
    optional.component_eq_some_iff record_distinct filled,
    multichain.component_eq_some_iff record_distinct filled,
    session.getD_component_eq_iff record_distinct filled]
  simp only [lookup_membersOf, scopesDecoder_ofJson_eq_ok_iff, Decoder.bool_ofJson_eq_ok_iff,
    Decoder.members_ofJson_eq_ok_iff, exists_eq_right]
  constructor
  · rintro ⟨required, optional, multichain, session⟩
    exact ⟨shape, required, optional, multichain, session⟩
  · rintro ⟨-, required, optional, multichain, session⟩
    exact ⟨required, optional, multichain, session⟩

/-- What stands for an authorization is taken into a draft. -/
theorem StandsFor.exists_draft {json : Json} {value : Authorization}
    (stands : StandsFor json value) : ∃ draft,
      record.fillByName record.blank (record.membersOf json) = .ok draft := by
  obtain ⟨-, ⟨first, atFirst, required⟩, ⟨second, atSecond, optional⟩, atThird, session⟩ := stands
  rw [← scopesDecoder_ofJson_eq_ok_iff] at required optional
  refine record_distinct.exists_draft_iff.2 fun field listed part found => ?_
  rw [lookup_membersOf] at found
  simp only [record, List.mem_cons, List.not_mem_nil, or_false] at listed
  rcases listed with rfl | rfl | rfl | rfl
  · cases found.symm.trans atFirst
    exact ⟨_, Decoder.map_ofJson required _⟩
  · cases found.symm.trans atSecond
    exact ⟨_, Decoder.map_ofJson optional _⟩
  · cases found.symm.trans atThird
    exact ⟨_, Decoder.map_ofJson (Decoder.bool_ofJson_eq_ok_iff.2 rfl) _⟩
  · rcases session with ⟨_, given, members, rfl, -⟩ | ⟨absent, -⟩
    · cases found.symm.trans given
      exact ⟨_, Decoder.map_ofJson (Decoder.members_ofJson_eq_ok_iff.2 ⟨members, rfl, rfl⟩) _⟩
    · cases found.symm.trans absent

/-- Authorizations are decoded from their forms. -/
theorem decoder_ofJson_eq_ok_iff {json : Json} {value : Authorization} :
    decoder.ofJson json = .ok value ↔ StandsFor json value := by
  refine record_distinct.ofJson_eq_ok_iff.trans ?_
  constructor
  · rintro ⟨fits, draft, filled, finished⟩
    exact (record_finish_iff (record_fits_iff.1 fits).1 filled).1 finished
  · intro stands
    obtain ⟨draft, filled⟩ := stands.exists_draft
    exact ⟨stands.fits, draft, filled, (record_finish_iff stands.shape filled).2 stands⟩

end Authorization

end WalletCore
