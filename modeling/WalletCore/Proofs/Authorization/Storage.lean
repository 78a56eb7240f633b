import WalletCore.Proofs.Authorization.Format
import WalletCore.Proofs.Json.Storable

/-! # Authorizations in storage

An authorization that is written takes four brackets, and its session properties stand behind two of
them. They come back from where they were written in no more brackets than they had.
-/
namespace WalletCore

open Json

/-- Strings can be stored in a list. -/
theorem Json.Storable.ofStrings (depth : Nat) (items : List String) :
    Storable (depth + 1) (.ofStrings items) := by
  refine .array fun item member => ?_
  obtain ⟨text, -, rfl⟩ := List.mem_map.1 member
  exact .string depth text

namespace Authorization

/-- The scopes of a table can be stored within three brackets. -/
theorem storable_scopesToJson (depth : Nat) (scopes : Table (List String)) :
    Storable (depth + 3) (scopesToJson scopes) := by
  refine .object ?_ fun entry member => ?_
  · rw [Entries.names_map fun _ => scopeToJson]
    exact scopes.names_nodup
  · obtain ⟨scope, -, rfl⟩ := List.mem_map.1 member
    exact .object (by simp [Entries.names]) (List.forall_mem_singleton.2 (.ofStrings depth scope.2))

/-- Whether the session properties of an authorization can be stored within some brackets. -/
def SessionStorable (depth : Nat) (value : Authorization) : Prop :=
  ∀ entry ∈ value.session.entries, Storable depth entry.2

/-- An authorization can be stored within two brackets more than its session properties. -/
theorem SessionStorable.toJson {depth : Nat} {value : Authorization}
    (session : value.SessionStorable (depth + 2)) : Storable (depth + 4) value.toJson := by
  have scopes : ∀ entry ∈ [("requiredScopes", scopesToJson value.required),
      ("optionalScopes", scopesToJson value.optional),
      ("isMultichainOrigin", Json.bool value.multichain)], Storable (depth + 3) entry.2 := by
    refine List.forall_mem_cons.2 ⟨storable_scopesToJson depth _, ?_⟩
    refine List.forall_mem_cons.2 ⟨storable_scopesToJson depth _, ?_⟩
    exact List.forall_mem_singleton.2 (.bool _ _)
  unfold Authorization.toJson
  split
  · exact .object (by simp [Entries.names]) scopes
  · refine .object (by simp [Entries.names]) fun entry member => ?_
    rcases List.mem_append.1 member with first | last
    · exact scopes entry first
    · cases List.mem_singleton.1 last
      exact .object value.session.nodup session

/-- Whether the session properties of a draft can be stored within some brackets, if it has them. -/
def Draft.SessionStorable (depth : Nat) (draft : Draft) : Prop :=
  ∀ session, draft.session = some session → ∀ entry ∈ session.entries, Storable depth entry.2

/-- Only one field changes the session properties, and it takes them as they are. -/
theorem record_keepsDecoded (depth : Nat) :
    record.KeepsDecoded (Storable (depth + 1)) (Draft.SessionStorable depth) := by
  intro field member part storable change decoded draft holds
  simp only [record, List.mem_cons, List.not_mem_nil, or_false] at member
  rcases member with rfl | rfl | rfl | rfl
  · obtain ⟨scopes, -, rfl⟩ := map_eq_ok_iff.1 decoded
    exact holds
  · obtain ⟨scopes, -, rfl⟩ := map_eq_ok_iff.1 decoded
    exact holds
  · obtain ⟨multichain, -, rfl⟩ := map_eq_ok_iff.1 decoded
    exact holds
  · obtain ⟨session, read, rfl⟩ := map_eq_ok_iff.1 decoded
    obtain ⟨entries, rfl, rfl⟩ := Decoder.members_ofJson_eq_ok_iff.1 read
    cases storable with
    | object distinct inner =>
      intro found same entry stored
      cases same
      exact inner entry (Members.mem_of_mem_ofList stored)

/-- The session properties of an authorization that is decoded take two brackets less than it. -/
theorem sessionStorable_of_decoded {depth : Nat} {json : Json} {value : Authorization}
    (storable : Storable (depth + 2) json) (decoded : decoder.ofJson json = .ok value) :
    value.SessionStorable depth := by
  have finish : ∀ (draft : Draft) (value : Authorization), draft.SessionStorable depth →
      record.finish draft = .ok value → value.SessionStorable depth := by
    intro draft value holds finished
    obtain ⟨required, -, finished⟩ := bind_eq_ok_iff.1 finished
    obtain ⟨optional, -, finished⟩ := bind_eq_ok_iff.1 finished
    obtain ⟨multichain, -, finished⟩ := bind_eq_ok_iff.1 finished
    cases finished
    cases found : draft.session with
    | none => exact fun entry member => absurd member List.not_mem_nil
    | some session => exact holds session found
  have blank : record.blank.SessionStorable depth := fun session absent => by contradiction
  have keeps := record_keepsDecoded depth
  cases storable with
  | array inner => exact Record.ofJson_yields keeps blank finish (.array inner) decoded
  | object distinct inner => exact Record.ofJson_yields keeps blank finish (.object inner) decoded
  | null | bool | number | string => contradiction

end Authorization

end WalletCore
