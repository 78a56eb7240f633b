import WalletCore.Proofs.Json.Reading

/-! # Well-formed values

A JSON value is well formed if no object in it has a name twice. Whatever is read from text is well
formed, for a repeated name is stored in the place of the first one.
-/
namespace WalletCore

namespace Json

/-- A member that is found is a member of an object. -/
theorem get?_eq_some_iff {value found : Json} {name : String} :
    value.get? name = some found ↔
      ∃ members, value = .object members ∧ members.lookup name = some found := by
  cases value with
  | object members =>
    constructor
    · intro held
      exact ⟨members, rfl, held⟩
    · rintro ⟨_, same, held⟩
      cases same
      exact held
  | null | bool | number | string | array =>
    constructor
    · intro held
      contradiction
    · rintro ⟨members, same, -⟩
      contradiction

/-- A value that is read as a string is a string. -/
theorem asString?_eq_some_iff {value : Json} {text : String} :
    value.asString? = some text ↔ value = .string text := by
  cases value <;> simp [asString?]

/-- A value that is read as an array is an array. -/
theorem asArray?_eq_some_iff {value : Json} {items : List Json} :
    value.asArray? = some items ↔ value = .array items := by
  cases value <;> simp [asArray?]

/-- Whether no object in a value has a name twice. -/
inductive WellFormed : Json → Prop where
  /-- The null value has no objects in it. -/
  | null : WellFormed .null
  /-- A truth value has no objects in it. -/
  | bool (value : Bool) : WellFormed (.bool value)
  /-- A number has no objects in it. -/
  | number (value : Number) : WellFormed (.number value)
  /-- A string has no objects in it. -/
  | string (value : String) : WellFormed (.string value)
  /-- An array of well-formed values. -/
  | array {items : List Json} (inner : ∀ item ∈ items, WellFormed item) : WellFormed (.array items)
  /-- An object of distinct names and well-formed values. -/
  | object {members : List (String × Json)} (distinct : (Entries.names members).Nodup)
      (inner : ∀ member ∈ members, WellFormed member.2) : WellFormed (.object members)

/-- An array is well formed if its items are. -/
theorem wellFormed_array_iff {items : List Json} :
    WellFormed (.array items) ↔ ∀ item ∈ items, item.WellFormed := by
  constructor
  · intro wellFormed
    cases wellFormed with
    | array inner => exact inner
  · exact .array

/-- An object is well formed if its names are distinct and its values are well formed. -/
theorem wellFormed_object_iff {members : List (String × Json)} :
    WellFormed (.object members) ↔
      (Entries.names members).Nodup ∧ ∀ member ∈ members, member.2.WellFormed := by
  constructor
  · intro wellFormed
    cases wellFormed with
    | object distinct inner => exact ⟨distinct, inner⟩
  · rintro ⟨distinct, inner⟩
    exact .object distinct inner

mutual

/-- Whether a value is well formed is decided along it. -/
def decideWellFormed : (value : Json) → Decidable value.WellFormed
  | .null => isTrue .null
  | .bool value => isTrue (.bool value)
  | .number value => isTrue (.number value)
  | .string value => isTrue (.string value)
  | .array items =>
    have := decideItemsWellFormed items
    decidable_of_iff _ wellFormed_array_iff.symm
  | .object members =>
    have := decideMembersWellFormed members
    decidable_of_iff _ wellFormed_object_iff.symm

/-- Whether the items of an array are well formed is decided one by one. -/
def decideItemsWellFormed : (items : List Json) → Decidable (∀ item ∈ items, item.WellFormed)
  | [] => isTrue nofun
  | item :: items =>
    have := decideWellFormed item
    have := decideItemsWellFormed items
    decidable_of_iff _ List.forall_mem_cons.symm

/-- Whether the values of an object are well formed is decided one by one. -/
def decideMembersWellFormed :
    (members : List (String × Json)) → Decidable (∀ member ∈ members, member.2.WellFormed)
  | [] => isTrue nofun
  | (_, value) :: members =>
    have := decideWellFormed value
    have := decideMembersWellFormed members
    decidable_of_iff _ List.forall_mem_cons.symm

end

instance (value : Json) : Decidable value.WellFormed := decideWellFormed value

/-- The names of a well-formed object are distinct. -/
theorem WellFormed.distinct {members : List (String × Json)}
    (wellFormed : WellFormed (.object members)) : (Entries.names members).Nodup :=
  (wellFormed_object_iff.1 wellFormed).1

/-- What is found in a well-formed object is well formed. -/
theorem WellFormed.lookup {members : List (String × Json)} {name : String} {value : Json}
    (wellFormed : WellFormed (.object members)) (found : members.lookup name = some value) :
    value.WellFormed :=
  (wellFormed_object_iff.1 wellFormed).2 _ (Entries.mem_of_lookup found)

/-- A value that is read: a scalar, or an array or object whose parts the inner reader returned. -/
inductive Assembled (inner : Option (Reader Json)) : Json → Prop where
  /-- The null value. -/
  | null : Assembled inner .null
  /-- A truth value. -/
  | bool (value : Bool) : Assembled inner (.bool value)
  /-- A number. -/
  | number (value : Number) : Assembled inner (.number value)
  /-- A string. -/
  | string (value : String) : Assembled inner (.string value)
  /-- An array: what the inner reader yields holds of its items. -/
  | array {reader : Reader Json} {items : List Json} (within : inner = some reader)
      (parts : ∀ property, Yields reader property → ∀ item ∈ items, property item) :
    Assembled inner (.array items)
  /-- An object: what the inner reader yields holds of its values, and its names are distinct. -/
  | object {reader : Reader Json} {members : Members Json} (within : inner = some reader)
      (parts : ∀ property, Yields reader property →
        ∀ member ∈ members.entries, property member.2) :
    Assembled inner (.ofMembers members)

/-- A value is read as a scalar, or part by part. -/
theorem readWithin_yields (length : Nat) (inner : Option (Reader Json)) :
    Yields (readWithin length inner) (Assembled inner) := by
  intro text value rest read
  unfold readWithin at read
  split at read
  · contradiction
  · split at read
    · obtain ⟨_, -, same⟩ := map_eq_ok_iff.1 read
      cases same
      exact .null
    split at read
    · obtain ⟨_, -, same⟩ := map_eq_ok_iff.1 read
      cases same
      exact .bool true
    split at read
    · obtain ⟨_, -, same⟩ := map_eq_ok_iff.1 read
      cases same
      exact .bool false
    split at read
    · obtain ⟨⟨found, _⟩, -, same⟩ := map_eq_ok_iff.1 read
      cases same
      exact .string found
    split at read
    · obtain ⟨⟨found, _⟩, -, same⟩ := map_eq_ok_iff.1 read
      cases same
      exact .number found
    split at read
    · cases inner with
      | none => contradiction
      | some item =>
        obtain ⟨⟨items, _⟩, readAll, same⟩ := map_eq_ok_iff.1 read
        cases same
        exact .array rfl fun property yields => readItems_yields yields _ _ _ _ _ readAll
    split at read
    · cases inner with
      | none => contradiction
      | some value =>
        obtain ⟨⟨members, _⟩, readAll, same⟩ := map_eq_ok_iff.1 read
        cases same
        refine .object rfl fun property yields member stored => ?_
        have values := readMembers_yields yields _ _ _ _ _ _ readAll
        exact values member (Members.mem_of_mem_ofList stored)
    · contradiction

/-- The null value is read only where its first letter comes next. -/
theorem head?_of_readWithin_null {length : Nat} {inner : Option (Reader Json)}
    {text rest : List Char} (read : readWithin length inner text = .ok (.null, rest)) :
    (skipBlanks text).head? = some 'n' := by
  unfold readWithin at read
  split at read
  · contradiction
  · rename_i char others front
    by_cases letter : char = 'n'
    · rw [front, letter]
      rfl
    · rw [if_neg letter] at read
      repeat' split at read
      all_goals first
        | contradiction
        | (obtain ⟨_, -, same⟩ := map_eq_ok_iff.1 read
           cases same)

/-- A value is well formed if what it is assembled of is. -/
theorem Assembled.wellFormed {inner : Option (Reader Json)} {value : Json}
    (assembled : Assembled inner value) (parts : ∀ reader ∈ inner, Yields reader WellFormed) :
    value.WellFormed := by
  cases assembled with
  | null => exact .null
  | bool value => exact .bool value
  | number value => exact .number value
  | string value => exact .string value
  | array within items => exact .array (items _ (parts _ within))
  | @object reader members within values => exact .object members.nodup (values _ (parts _ within))

/-- Every value that is read is well formed. -/
theorem readValue_yields (length depth : Nat) : Yields (readValue length depth) WellFormed := by
  induction depth with
  | zero =>
    intro text value rest read
    refine (readWithin_yields length none _ _ _ read).wellFormed fun reader absent => ?_
    contradiction
  | succ depth ih =>
    intro text value rest read
    refine (readWithin_yields length _ _ _ _ read).wellFormed fun reader same => ?_
    cases same
    exact ih

/-- Whatever brackets may be opened, null is read only where its first letter comes next. -/
theorem head?_of_readValue_null {length depth : Nat} {text rest : List Char}
    (read : readValue length depth text = .ok (.null, rest)) :
    (skipBlanks text).head? = some 'n' := by
  cases depth <;> exact head?_of_readWithin_null read

end Json

end WalletCore
