import WalletCore.Authorization.Format
import WalletCore.Proofs.Json.Decoding

/-! # Authorizations survive being written

Whatever authorization is written as JSON is decoded from it again, unchanged.
-/
namespace WalletCore

namespace Authorization

/-- The accounts of a scope that are written are decoded again. -/
theorem scopeRecord_scopeToJson (accounts : List String) :
    scopeRecord.decoder.ofJson (scopeToJson accounts) = .ok accounts :=
  Record.Takes.ofJson
    (.field rfl (Decoder.map_ofJson (Decoder.list_string_ofStrings accounts) _) (.done _))
    (by simp [Entries.names]) rfl

/-- The scopes of a table that are written are decoded again. -/
theorem scopesDecoder_scopesToJson (scopes : Table (List String)) :
    scopesDecoder.ofJson (scopesToJson scopes) = .ok scopes := by
  have decoded := Decoder.entries_map scopeRecord_scopeToJson scopes.entries
  simp only [scopesDecoder, Decoder.table, Decoder.map, scopesToJson, decoded]
  exact congrArg Except.ok (Table.ofList_entries scopes)

/-- An authorization that is written is decoded again. -/
theorem decoder_toJson (value : Authorization) : decoder.ofJson value.toJson = .ok value := by
  obtain ⟨required, optional, multichain, session⟩ := value
  have truth : Decoder.bool.ofJson (.bool multichain) = .ok multichain := rfl
  have always : ∀ {others : List (String × Json)} {final : Draft},
      record.Takes ⟨some required, some optional, some multichain, none⟩ others final →
      record.Takes record.blank (("requiredScopes", scopesToJson required) ::
        ("optionalScopes", scopesToJson optional) :: ("isMultichainOrigin", .bool multichain) ::
          others) final := fun takes =>
    .field rfl (Decoder.map_ofJson (scopesDecoder_scopesToJson required) _)
      (.field rfl (Decoder.map_ofJson (scopesDecoder_scopesToJson optional) _)
        (.field rfl (Decoder.map_ofJson truth _) takes))
  -- The session properties are written only if there are any.
  cases bare : session.isEmpty with
  | true =>
    have empty : session = .empty := Members.ext_entries (List.isEmpty_iff.1 bare)
    rw [toJson, if_pos bare, empty]
    exact (always (.done _)).ofJson (by simp [Entries.names]) rfl
  | false =>
    have filled : ¬ session.isEmpty = true := by simp [bare]
    rw [toJson, if_neg filled]
    have free := Decoder.members_ofMembers session
    exact (always (.field rfl (Decoder.map_ofJson free _) (.done _))).ofJson
      (by simp [Entries.names]) rfl

end Authorization

end WalletCore
