import WalletCore.Proofs.Authorization.Storage
import WalletCore.Proofs.Json.Records
import WalletCore.Proofs.State.Frame

/-! # States in storage

A state whose controllers can be stored within the brackets that are left for them is read again
from its written form. Whatever state of integers is read is of this kind, and the migrations leave
it so, for the permission that a conversion writes has its place seven brackets inside the
controllers and what it keeps of the former ones goes no deeper than it was.
-/
namespace WalletCore.State

open Json (Storable)

/-- Whether the state of every controller can be stored within some brackets. -/
def Controllers.Storable (depth : Nat) (controllers : Controllers) : Prop :=
  ∀ entry ∈ controllers.entries, entry.2.Storable depth

namespace Controllers.Storable

variable {depth : Nat} {controllers : Controllers} {name : String} {value : Json}

/-- What is found among such controllers can be stored. -/
theorem get? (storable : controllers.Storable depth) (found : controllers.get? name = some value) :
    value.Storable depth :=
  storable _ (Entries.mem_of_lookup found)

/-- A controller that can be stored may be added to such controllers, or replace one of them. -/
theorem put (storable : controllers.Storable depth) (stored : value.Storable depth) :
    Controllers.Storable depth (controllers.put name value) := by
  intro entry member
  rcases Entries.mem_of_mem_put member with rfl | former
  · exact stored
  · exact storable entry former

end Controllers.Storable

namespace MarkerReset

/-- The reset of the marker leaves controllers that can be stored. -/
theorem storable_transform {depth : Nat} {controllers : Controllers}
    (storable : controllers.Storable (depth + 2)) :
    (transform controllers).1.Storable (depth + 2) := by
  rcases transform_cases controllers with
    ⟨-, result⟩ | ⟨-, finding, result⟩ | ⟨controller, preferences, held, nested, result⟩
  · rw [result]
    exact storable
  · rw [result]
    exact storable
  · rw [result]
    have outer : Storable (depth + 2) (.object controller) := storable.get? held
    have inner : Storable (depth + 1) (.object preferences) := outer.lookup nested
    exact storable.put (outer.put (inner.put (.bool depth false)))

end MarkerReset

namespace GrantConversion

open Permission (accountsName chainsName authorizationName scopesCaveat)

/-- The value of a caveat stands three brackets inside its permission. -/
theorem storable_of_caveatValue? {depth : Nat} {permission json : Json} {type : String}
    (storable : Storable (depth + 3) permission)
    (read : caveatValue? permission type = some json) : Storable depth json := by
  obtain ⟨value, held, read⟩ := Option.bind_eq_some_iff.1 read
  obtain ⟨caveats, listed, read⟩ := Option.bind_eq_some_iff.1 read
  obtain ⟨caveat, found, read⟩ := Option.bind_eq_some_iff.1 read
  have all : Storable (depth + 2) (.array caveats) :=
    Json.asArray?_eq_some_iff.1 listed ▸ storable.get? held
  cases all with
  | array inner => exact (inner caveat (List.mem_of_find?_eq_some found)).get? read

/-- The session properties that a subject has already stand five brackets inside its
permissions. -/
theorem Present.sessionStorable {depth : Nat} {permissions : List (String × Json)}
    {present : Authorization} (carried : Present permissions present)
    (storable : Storable (depth + 6) (.object permissions)) : present.SessionStorable depth := by
  cases carried with
  | missing absent => exact fun entry member => absurd member List.not_mem_nil
  | carried found value decoded =>
    have permission : Storable (depth + 5) _ := storable.lookup found
    have caveat := storable_of_caveatValue? permission value
    exact Authorization.sessionStorable_of_decoded caveat decoded

/-- A permission that is written goes no deeper than its authorization and the former one. -/
theorem storable_newPermission {depth : Nat} (origin : String) {former : Json}
    {value : Authorization} (storable : Storable (depth + 7) former)
    (session : value.SessionStorable (depth + 2)) :
    Storable (depth + 7) (newPermission origin former value) := by
  have kept : ∀ name, ∀ entry ∈ (former.get? name).elim [] fun found => [(name, found)],
      Storable (depth + 6) entry.2 := by
    intro name entry member
    cases held : former.get? name with
    | none =>
      rw [held] at member
      exact absurd member List.not_mem_nil
    | some found =>
      rw [held] at member
      cases List.mem_singleton.1 member
      exact storable.get? held
  have caveat : Storable (depth + 5)
      (.object [("type", .string scopesCaveat), ("value", value.toJson)]) :=
    .object (by simp [Entries.names])
      (List.forall_mem_cons.2 ⟨.string _ _, List.forall_mem_singleton.2 session.toJson⟩)
  refine .object ?_ fun entry member => ?_
  · cases former.get? "id" <;> cases former.get? "date" <;> simp [Entries.names]
  · rcases List.mem_append.1 member with first | date
    · rcases List.mem_append.1 first with fixed | id
      · simp only [List.mem_cons, List.not_mem_nil, or_false] at fixed
        rcases fixed with rfl | rfl | rfl
        · exact .string _ _
        · exact .string _ _
        · exact .array (List.forall_mem_singleton.2 caveat)
      · exact kept "id" entry id
    · exact kept "date" entry date

/-- The permissions that a conversion writes can be stored where the former ones were. -/
theorem storable_convertPermissions {depth : Nat} {selected origin : String}
    {permissions converted : List (String × Json)}
    (storable : Storable (depth + 8) (.object permissions))
    (succeeded : convertPermissions selected origin permissions = .ok (some converted)) :
    Storable (depth + 8) (.object converted) := by
  obtain ⟨former, addresses, chains, present, value, reads, grows, rfl⟩ :=
    convertPermissions_eq_ok succeeded
  have session : value.SessionStorable (depth + 2) := by
    have before : present.SessionStorable (depth + 2) := reads.carried.sessionStorable storable
    unfold Authorization.SessionStorable
    rw [grows.session]
    exact before
  have written := storable_newPermission origin (storable.lookup reads.found) session
  exact storable.swapRemove.swapRemove.put written

/-- A subject after the migration can be stored where it was before. -/
theorem storable_migratedSubject {depth : Nat} (selected origin : String) {subject : Json}
    (storable : Storable (depth + 9) subject) :
    Storable (depth + 9) (migratedSubject selected origin subject) := by
  unfold migratedSubject
  split
  · rename_i converted outcome
    obtain ⟨members, permissions, result, rfl, found, inner, same⟩ := convertSubject_eq_ok outcome
    obtain ⟨granted, rfl, rfl⟩ := Option.map_eq_some_iff.1 same.symm
    exact storable.put (storable_convertPermissions (storable.lookup found) inner)
  · exact storable

/-- The conversion leaves controllers that can be stored. -/
theorem storable_transform {depth : Nat} {controllers : Controllers}
    (storable : controllers.Storable (depth + 11)) :
    (transform controllers).1.Storable (depth + 11) := by
  rcases transform_cases controllers with
    same | ⟨controller, subjects, selected, held, nested, -, result⟩
  · rw [same]
    exact storable
  · rw [result]
    have outer : Storable (depth + 11) (.object controller) := storable.get? held
    have inner : Storable (depth + 10) (.object subjects) := outer.lookup nested
    refine storable.put (outer.put (inner.map fun origin subject => ?_))
    exact storable_migratedSubject selected origin

end GrantConversion

/-- What a migration leaves as it can be stored it leaves so where it is applied as far as it
lacks. -/
theorem Migration.storable_since {migration : Migration} {depth : Nat} {controllers : Controllers}
    (storable : controllers.Storable depth)
    (kept : (migration.transform controllers).1.Storable depth) (version : UInt64) :
    (migration.since version controllers).1.Storable depth := by
  unfold Migration.since
  split
  · exact kept
  · exact storable

/-- The migrations leave controllers that can be stored. -/
theorem storable_run {state : Versioned} {depth : Nat}
    (storable : state.controllers.Storable (depth + 11)) :
    (builtinMigrator.run state).1.controllers.Storable (depth + 11) := by
  have reset : (MarkerReset.transform state.controllers).1.Storable (depth + 11) :=
    MarkerReset.storable_transform storable
  have between : (MarkerReset.migration.since state.version state.controllers).1.Storable
      (depth + 11) := Migration.storable_since storable reset state.version
  have converted := GrantConversion.storable_transform between
  rw [(run_builtin state).1]
  exact Migration.storable_since between converted state.version

namespace Versioned

/-- The controllers of a state that is read can be stored where they were if all numbers in them are
integers. -/
theorem storable_of_ofText {text : String} {state : Versioned} (read : ofText text = .ok state)
    (whole : ∀ entry ∈ state.controllers.entries, entry.2.Whole) :
    state.controllers.Storable 125 := by
  have within := forall_of_ofText (fun length => Json.readValue_within length 125) read
  have wellFormed := wellFormed_of_ofText read
  exact fun entry member =>
    (within entry member).storable (wellFormed entry member) (whole entry member)

/-- The header of a state is restored. -/
theorem header_restores {layout : Json.Layout} (plain : layout.Plain) (indent : Nat)
    (version : UInt64) {depth length : Nat}
    (enough : (Json.write layout indent
      (.object [("version", .number (.ofUInt64 version))])).length < length) :
    Json.Restores (header.decoder.read ⟨depth + 1, length⟩)
      (Json.write layout indent (.object [("version", .number (.ofUInt64 version))])) version := by
  have word := Decoder.map_restores (fun version (_ : Option UInt64) => some version)
    (Decoder.unsigned_restores ⟨depth, length⟩ version)
  exact Record.read_restores plain indent (.field rfl rfl word (.done _)) rfl enough

/-- A state whose controllers can be stored is read again from its written form, with the same
controllers in the same order. -/
theorem ofText_pretty {state : Versioned} (storable : state.controllers.Storable 125) :
    ofText state.pretty = .ok state := by
  let header := Json.object [("version", .number (.ofUInt64 state.version))]
  let length := (Json.write .pretty 0 state.toJson).length + 1
  have plain := Json.Layout.plain_pretty
  obtain ⟨shorter, -⟩ := Json.length_write_object plain 0
    [("meta", header), ("data", .ofMembers state.controllers)]
  obtain ⟨⟨-, shortHeader⟩, others⟩ := List.forall_mem_cons.1 shorter
  have shortData := (List.forall_mem_singleton.1 others).2
  have version : Json.Restores (Versioned.header.decoder.read ⟨126, length⟩)
      (Json.write .pretty 1 header) state.version :=
    header_restores plain 1 state.version (Nat.lt_succ_of_lt shortHeader)
  have controllers : Json.Restores (Decoder.members.read ⟨126, length⟩)
      (Json.write .pretty 1 (.ofMembers state.controllers)) state.controllers :=
    Decoder.members_restores plain storable 1 (Nat.lt_succ_of_lt shortData)
  have whole : Json.Restores (record.read ⟨127, length⟩) (Json.write .pretty 0 state.toJson)
      state :=
    Record.read_restores plain 0
      (.field rfl rfl (Decoder.map_restores _ version)
        (.field rfl rfl (Decoder.map_restores _ controllers) (.done _)))
      rfl (Nat.lt_succ_self _)
  exact whole.ofText

end Versioned

end WalletCore.State
