import WalletCore.Permission.Registry
import WalletCore.Proofs.Repetition
import WalletCore.Proofs.Table

/-! # Which caveat specifications are registered

The specification for authorizations is registered first, and those of the snaps after it, each
under its own type. A type that is taken stops the registration, and is the one that is named
(`addSpecifications_eq_error_iff`). Where none is, every specification is found under its type
(`get?_of_caveatSpecifications`), so a snap can neither replace the specification for
authorizations nor hide that of another snap (`snaps_never_shadow`).
-/
namespace WalletCore.Permission

/-- The types of specifications, in their order. -/
def typesOf (specifications : List CaveatSpecification) : List String :=
  specifications.map (·.type)

/-- Specifications are refused exactly if the type of one of them is taken or repeats that of an
earlier one, and the first such type is named. -/
theorem addSpecifications_eq_error_iff {table : Table CaveatSpecification}
    {specifications : List CaveatSpecification} {error : Error} :
    addSpecifications table specifications = .error error ↔
      ∃ type, FirstClash (· ∈ table.keys) (typesOf specifications) type ∧
        error = .duplicateCaveatSpecification type := by
  induction specifications generalizing table with
  | nil =>
    refine iff_of_false nofun fun clash => ?_
    obtain ⟨type, clash, -⟩ := clash
    exact not_firstClash_nil type clash
  | cons specification others ih =>
    have types : typesOf (specification :: others) = specification.type :: typesOf others := rfl
    rw [addSpecifications, types]
    simp only [Table.contains_iff_mem_keys, firstClash_cons_iff]
    by_cases taken : specification.type ∈ table.keys
    · rw [if_pos taken]
      constructor
      · intro same
        cases same
        exact ⟨specification.type, .inl ⟨taken, rfl⟩, rfl⟩
      · intro ⟨type, clash, same⟩
        obtain ⟨-, named⟩ := clash.resolve_right fun clear => clear.1 taken
        rw [same, named]
    · rw [if_neg taken, ih]
      simp only [Table.mem_keys_insert, taken, not_false_eq_true, false_and, true_and, false_or]

/-- Specifications are registered exactly if their types are distinct and none of them is taken. -/
theorem exists_addSpecifications_iff {table : Table CaveatSpecification}
    {specifications : List CaveatSpecification} :
    (∃ registered, addSpecifications table specifications = .ok registered) ↔
      (typesOf specifications).Nodup ∧ ∀ type ∈ typesOf specifications, type ∉ table.keys := by
  cases result : addSpecifications table specifications with
  | error error =>
    obtain ⟨type, clash, -⟩ := addSpecifications_eq_error_iff.1 result
    refine iff_of_false (fun made => ?_) (exists_firstClash_iff.1 ⟨type, clash⟩)
    obtain ⟨registered, same⟩ := made
    contradiction
  | ok registered =>
    refine iff_of_true ⟨registered, rfl⟩ (Classical.byContradiction fun other => ?_)
    obtain ⟨type, clash⟩ := exists_firstClash_iff.2 other
    have refused := addSpecifications_eq_error_iff.2 ⟨type, clash, rfl⟩
    rw [result] at refused
    contradiction

/-- Specifications with their types. -/
def underTypes (specifications : List CaveatSpecification) :
    List (String × CaveatSpecification) :=
  specifications.map fun specification => (specification.type, specification)

/-- The types under which specifications stand. -/
theorem names_underTypes (specifications : List CaveatSpecification) :
    Entries.names (underTypes specifications) = typesOf specifications := by
  simp [Entries.names, underTypes, typesOf]

/-- Where specifications were registered, each of them is found under its type, and under any other
type what was there before. -/
theorem get?_of_addSpecifications {table registered : Table CaveatSpecification}
    {specifications : List CaveatSpecification}
    (added : addSpecifications table specifications = .ok registered) (type : String) :
    registered.get? type =
      ((underTypes specifications).lookup type).elim (table.get? type) some := by
  have distinct : (Entries.names (underTypes specifications)).Nodup := by
    rw [names_underTypes]
    exact (exists_addSpecifications_iff.1 ⟨registered, added⟩).1
  have stored : registered = (underTypes specifications).foldl
      (fun table entry => table.upsert entry.1 fun _ => entry.2) table := by
    clear distinct
    induction specifications generalizing table with
    | nil =>
      cases added
      rfl
    | cons specification others ih =>
      rw [addSpecifications] at added
      split at added
      · contradiction
      · exact ih added
  rw [stored]
  exact Table.get?_foldl_upsert distinct (fun specification _ => specification) table type

/-- Before the snaps, only the type for authorizations is taken. -/
theorem mem_keys_authorizedScopes {lookups : WalletLookups} {type : String} :
    type ∈ (Table.empty.insert scopesCaveat (CaveatSpecification.authorizedScopes lookups)).keys ↔
      type = scopesCaveat := by
  rw [Table.mem_keys_insert]
  exact or_iff_left List.not_mem_nil

/-- A registry is made exactly if the types of the snaps are distinct and none of them is the one for
authorizations. -/
theorem exists_caveatSpecifications_iff {lookups : WalletLookups}
    {snaps : List CaveatSpecification} :
    (∃ registered, caveatSpecifications lookups snaps = .ok registered) ↔
      (typesOf snaps).Nodup ∧ scopesCaveat ∉ typesOf snaps := by
  rw [caveatSpecifications, exists_addSpecifications_iff]
  simp only [mem_keys_authorizedScopes]
  have apart : (∀ type ∈ typesOf snaps, type ≠ scopesCaveat) ↔ scopesCaveat ∉ typesOf snaps := by
    constructor
    · intro others member
      exact others scopesCaveat member rfl
    · intro absent type member same
      exact absent (same ▸ member)
  rw [apart]

/-- In a registry stand the specification for authorizations and those of the snaps. -/
theorem get?_of_caveatSpecifications {lookups : WalletLookups} {snaps : List CaveatSpecification}
    {registered : Table CaveatSpecification}
    (made : caveatSpecifications lookups snaps = .ok registered) {type : String}
    {specification : CaveatSpecification} :
    registered.get? type = some specification ↔
      (type = scopesCaveat ∧ specification = .authorizedScopes lookups) ∨
        (specification ∈ snaps ∧ specification.type = type) := by
  obtain ⟨distinct, free⟩ := exists_caveatSpecifications_iff.1 ⟨registered, made⟩
  rw [← names_underTypes] at distinct free
  have snap : (underTypes snaps).lookup type = some specification ↔
      specification ∈ snaps ∧ specification.type = type := by
    rw [Entries.lookup_eq_some_iff distinct, underTypes, List.mem_map]
    constructor
    · intro ⟨found, member, same⟩
      cases same
      exact ⟨member, rfl⟩
    · intro ⟨member, same⟩
      exact ⟨specification, member, by rw [same]⟩
  rw [get?_of_addSpecifications made, ← snap, Table.get?_insert]
  by_cases own : type = scopesCaveat
  · have absent : (underTypes snaps).lookup type = none :=
      Entries.lookup_eq_none_iff.2 (own ▸ free)
    rw [absent, if_pos own]
    simp [own, eq_comm]
  · rw [if_neg own]
    cases (underTypes snaps).lookup type <;> simp [own, Table.get?_empty]

/-- No snap can replace or shadow a specification. A registry is made exactly if the types of the
snaps are distinct and none of them is the one for authorizations; it then has these types and no
others, under each type of a snap stands the very specification of that snap, and under the type for
authorizations the one that checks authorizations and merges them. Otherwise the first type in the
list that is the one for authorizations or repeats an earlier one is named. -/
theorem snaps_never_shadow (lookups : WalletLookups) (snaps : List CaveatSpecification) :
    ((∃ registered, caveatSpecifications lookups snaps = .ok registered) ↔
        (typesOf snaps).Nodup ∧ scopesCaveat ∉ typesOf snaps) ∧
      (∀ registered, caveatSpecifications lookups snaps = .ok registered →
        (∀ type, type ∈ registered.keys ↔ type = scopesCaveat ∨ type ∈ typesOf snaps) ∧
        (∀ snap ∈ snaps, registered.get? snap.type = some snap) ∧
        registered.get? scopesCaveat =
          some ⟨scopesCaveat, some (checkScopesCaveat lookups), some mergeScopesValues⟩) ∧
      ∀ error, caveatSpecifications lookups snaps = .error error ↔
        ∃ type, FirstClash (· = scopesCaveat) (typesOf snaps) type ∧
          error = .duplicateCaveatSpecification type := by
  refine ⟨exists_caveatSpecifications_iff, fun registered made => ⟨fun type => ?_, ?_, ?_⟩, ?_⟩
  · rw [Table.mem_keys_iff]
    simp only [get?_of_caveatSpecifications made, typesOf, List.mem_map]
    constructor
    · intro ⟨specification, found⟩
      rcases found with ⟨own, -⟩ | snap
      · exact .inl own
      · exact .inr ⟨specification, snap⟩
    · intro found
      rcases found with own | ⟨snap, found⟩
      · exact ⟨.authorizedScopes lookups, .inl ⟨own, rfl⟩⟩
      · exact ⟨snap, .inr found⟩
  · intro snap member
    exact (get?_of_caveatSpecifications made).2 (.inr ⟨member, rfl⟩)
  · exact (get?_of_caveatSpecifications made).2 (.inl ⟨rfl, rfl⟩)
  · intro error
    rw [caveatSpecifications, addSpecifications_eq_error_iff]
    simp only [mem_keys_authorizedScopes]

/-- Two snaps are registered beside the specification for authorizations. If a third one stands
between them under the type for authorizations, that type is named, though the fourth one repeats
the type of the first. -/
theorem snaps_never_shadow_of_two :
    let lookups : WalletLookups := ⟨[], fun _ => .error "unknown"⟩
    let ids : CaveatSpecification := { type := "snapIds" }
    let paths : CaveatSpecification := { type := "paths", merger := some fun left _ => .ok left }
    let rival : CaveatSpecification := { type := scopesCaveat }
    (∃ registered, caveatSpecifications lookups [ids, paths] = .ok registered ∧
        registered.get? "paths" = some paths ∧
        registered.get? scopesCaveat = some (.authorizedScopes lookups)) ∧
      caveatSpecifications lookups [ids, rival, paths, ids] =
        .error (.duplicateCaveatSpecification scopesCaveat) := by
  intro lookups ids paths rival
  obtain ⟨succeeds, holds, -⟩ := snaps_never_shadow lookups [ids, paths]
  obtain ⟨registered, made⟩ := succeeds.2 (by decide)
  obtain ⟨-, snaps, own⟩ := holds registered made
  obtain ⟨-, -, refused⟩ := snaps_never_shadow lookups [ids, rival, paths, ids]
  have clash : FirstClash (· = scopesCaveat) (typesOf [ids, rival, paths, ids]) scopesCaveat := by
    show FirstClash _ (["snapIds"] ++ scopesCaveat :: ["paths", "snapIds"]) scopesCaveat
    exact .after (by decide) (by decide) (.inl rfl)
  exact ⟨⟨registered, made, snaps paths (by simp), own⟩, (refused _).2 ⟨scopesCaveat, clash, rfl⟩⟩

end WalletCore.Permission
