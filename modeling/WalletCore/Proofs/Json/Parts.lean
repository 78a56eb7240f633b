import WalletCore.Proofs.Json.Decoding
import WalletCore.Proofs.Json.Reading

/-! # What a record is made of

A record may be given by name or in order, but it comes to the same: the items of an array are the
members whose names are those of the fields in their places (`ofJson_eq_ok_iff`). The members are
taken into a draft if all those that are fields are decoded (`exists_draft_iff`). A field that alone
sets a component of the draft sets it to what its member stands for, and a component whose member is
missing stays empty (`Decides.component`). Of the members of a text that repeat a name the last one
is in the object that is read (`exists_entries_of_ofText`).
-/
namespace WalletCore

open Json

namespace Record

variable {σ α β : Type} {record : Record σ α}

/-- The members that a record takes from a value: those of an object, of which the last one of a
name counts, or the items of an array under the names of the fields in their places. -/
def membersOf (record : Record σ α) : Json → List (String × Json)
  | .object members => (Members.ofList members).entries
  | .array items => (record.fields.map (·.name)).zip items
  | _ => []

/-- Whether no two fields have one name. -/
def Distinct (record : Record σ α) : Prop := (record.fields.map (·.name)).Nodup

/-- No name stands twice among the members that a record takes. -/
theorem Distinct.nodup_membersOf (distinct : record.Distinct) (json : Json) :
    (Entries.names (record.membersOf json)).Nodup := by
  cases json with
  | object members => exact (Members.ofList members).nodup
  | array items => exact distinct.sublist (Entries.names_zip_sublist _ items)
  | null | bool | number | string => exact .nil

/-- Each of the fields is found under its name. -/
theorem Distinct.field?_eq_some (distinct : record.Distinct) {field : Field σ}
    (member : field ∈ record.fields) : record.field? field.name = some field := by
  unfold field?
  unfold Distinct at distinct
  generalize record.fields = fields at distinct member
  induction fields with
  | nil => exact absurd member List.not_mem_nil
  | cons first rest ih =>
    obtain ⟨fresh, tail⟩ := List.nodup_cons.1 distinct
    rcases List.mem_cons.1 member with rfl | later
    · exact List.find?_cons_of_pos (decide_eq_true rfl)
    · have other : ¬ first.name = field.name := by
        intro same
        exact fresh (List.mem_map.2 ⟨field, later, same.symm⟩)
      rw [List.find?_cons_of_neg (by simpa using other)]
      exact ih tail later

/-- Items fill a draft in order just if the fields that are left without an item may be missing and
the items fill it under the names of the fields in their places. -/
theorem Distinct.fillByOrder_eq_ok_iff (distinct : record.Distinct) {fields : List (Field σ)}
    (among : fields ⊆ record.fields) {taken : Nat} {items left : List Json} {draft final : σ} :
    record.fillByOrder taken fields draft items = .ok (final, left) ↔
      (∀ field ∈ fields.drop items.length, field.required = false) ∧
        left = items.drop fields.length ∧
        record.fillByName draft ((fields.map (·.name)).zip items) = .ok final := by
  induction fields generalizing taken items draft with
  | nil =>
    simp only [fillByOrder, List.drop_nil, List.not_mem_nil, false_imp_iff, implies_true,
      List.length_nil, List.drop_zero, List.map_nil, List.zip_nil_left, fillByName, true_and,
      Except.ok.injEq, Prod.mk.injEq, eq_comm]
    exact and_comm
  | cons field fields ih =>
    obtain ⟨here, later⟩ := List.cons_subset.1 among
    cases items with
    | nil =>
      have rest := @ih later (taken + 1) [] draft
      simp only [List.length_nil, List.drop_zero, List.zip_nil_right, List.drop_nil] at rest ⊢
      rw [List.forall_mem_cons, and_assoc, ← rest, fillByOrder]
      cases field.required with
      | true =>
        refine iff_of_false (fun filled => by contradiction) fun missing => ?_
        simp at missing
      | false => exact (and_iff_right rfl).symm
    | cons item items =>
      simp only [fillByOrder, List.length_cons, List.drop_succ_cons, List.map_cons,
        List.zip_cons_cons, fillByName, distinct.field?_eq_some here, bind_eq_ok_iff, ih later]
      constructor
      · rintro ⟨change, decoded, optional, rest, filled⟩
        exact ⟨optional, rest, change, decoded, filled⟩
      · rintro ⟨optional, rest, change, decoded, filled⟩
        exact ⟨change, decoded, optional, rest, filled⟩

/-- Whether a value is of the shape that a record takes: an object, or an array that has an item for
each required field and none beyond the fields. -/
def Fits (record : Record σ α) : Json → Prop
  | .object _ => True
  | .array items => items.length ≤ record.fields.length ∧
    ∀ field ∈ record.fields.drop items.length, field.required = false
  | _ => False

/-- A record is decoded from the values of its shape, as what comes of the draft that their members
fill by name, whether they are given by name or in order. -/
theorem Distinct.ofJson_eq_ok_iff (distinct : record.Distinct) {json : Json} {value : α} :
    record.ofJson json = .ok value ↔ record.Fits json ∧
      ∃ draft, record.fillByName record.blank (record.membersOf json) = .ok draft ∧
        record.finish draft = .ok value := by
  cases json with
  | object members => exact bind_eq_ok_iff.trans (and_iff_right trivial).symm
  | array items =>
    simp only [ofJson, Fits, membersOf, bind_eq_ok_iff, Prod.exists,
      distinct.fillByOrder_eq_ok_iff (List.Subset.refl _)]
    constructor
    · rintro ⟨draft, left, ⟨optional, rfl, filled⟩, made, finished, decoded⟩
      split at decoded
      · rename_i exhausted
        cases decoded
        exact ⟨⟨List.drop_eq_nil_iff.1 (List.isEmpty_iff.1 exhausted), optional⟩, draft, filled,
          finished⟩
      · contradiction
    · rintro ⟨⟨short, optional⟩, draft, filled, finished⟩
      have exhausted : (items.drop record.fields.length).isEmpty = true := by
        rw [List.drop_eq_nil_iff.2 short, List.isEmpty_nil]
      exact ⟨draft, _, ⟨optional, rfl, filled⟩, value, finished, if_pos exhausted⟩
  | null | bool | number | string =>
    exact iff_of_false (fun decoded => by contradiction) fun fits => fits.1

/-- A record that is decoded comes from the draft that its members fill by name, whether they were
given by name or in order. -/
theorem Distinct.exists_draft (distinct : record.Distinct) {json : Json} {value : α}
    (decoded : record.ofJson json = .ok value) :
    ∃ draft, record.fillByName record.blank (record.membersOf json) = .ok draft ∧
      record.finish draft = .ok value :=
  (distinct.ofJson_eq_ok_iff.1 decoded).2

/-- Members fill a draft by name just if each of them that is a field is decoded. -/
theorem exists_fillByName_iff {members : List (String × Json)} {draft : σ} :
    (∃ final, record.fillByName draft members = .ok final) ↔
      ∀ member ∈ members, ∀ field, record.field? member.1 = some field →
        ∃ change, field.decoder.ofJson member.2 = .ok change := by
  induction members generalizing draft with
  | nil => exact iff_of_true ⟨draft, rfl⟩ fun _ member => absurd member List.not_mem_nil
  | cons member rest ih =>
    obtain ⟨name, json⟩ := member
    rw [List.forall_mem_cons]
    cases known : record.field? name with
    | none =>
      simp only [fillByName, known, ih]
      exact (and_iff_right (fun _ impossible => by contradiction)).symm
    | some field =>
      simp only [fillByName, known, bind_eq_ok_iff, Option.some.injEq, forall_eq']
      constructor
      · rintro ⟨final, change, decoded, filled⟩
        exact ⟨⟨change, decoded⟩, ih.1 ⟨final, filled⟩⟩
      · rintro ⟨⟨change, decoded⟩, each⟩
        obtain ⟨final, filled⟩ := ih.2 each
        exact ⟨final, change, decoded, filled⟩

/-- A value is taken into a draft just if each of its members that is a field is decoded. -/
theorem Distinct.exists_draft_iff (distinct : record.Distinct) {json : Json} {draft : σ} :
    (∃ final, record.fillByName draft (record.membersOf json) = .ok final) ↔
      ∀ field ∈ record.fields, ∀ part, (record.membersOf json).lookup field.name = some part →
        ∃ change, field.decoder.ofJson part = .ok change := by
  rw [exists_fillByName_iff]
  constructor
  · intro each field listed part found
    exact each _ (Entries.mem_of_lookup found) field (distinct.field?_eq_some listed)
  · intro each member inside field known
    have named : field.name = member.1 := by simpa using List.find?_some known
    refine each field (List.mem_of_find?_eq_some known) member.2 ?_
    rw [named]
    exact (Entries.lookup_eq_some_iff (distinct.nodup_membersOf json)).2 inside

/-- Whether the field of a name, and no other, sets a component of the draft to what is decoded of
its member. -/
structure Decides (record : Record σ α) (name : String) (decoder : Decoder β)
    (component : σ → Option β) : Prop where
  /-- There is a field of the name. -/
  known : (record.field? name).isSome = true
  /-- The field sets the component. -/
  sets : ∀ field, record.field? name = some field → ∀ json change,
    field.decoder.ofJson json = .ok change →
      ∃ value, decoder.ofJson json = .ok value ∧ ∀ draft, component (change draft) = some value
  /-- The other fields leave the component as it is. -/
  keeps : ∀ other ∈ record.fields, other.name ≠ name →
    other.decoder.Returns fun change => ∀ draft, component (change draft) = component draft
  /-- At first the component is empty. -/
  blank : component record.blank = none

/-- A field decides a component if it sets it to what its decoder returns, and the others leave it
as it is. -/
theorem Decides.of_map {name : String} {required : Bool} {decoder : Decoder β}
    {set : β → σ → σ} {filled : σ → Bool} {component : σ → Option β}
    (known : record.field? name = some ⟨name, required, decoder.map set, filled⟩)
    (sets : ∀ value draft, component (set value draft) = some value)
    (keeps : ∀ other ∈ record.fields, other.name ≠ name →
      other.decoder.Returns fun change => ∀ draft, component (change draft) = component draft)
    (blank : component record.blank = none) : record.Decides name decoder component where
  known := by
    rw [known]
    rfl
  sets := by
    intro field found json change decoded
    cases known.symm.trans found
    obtain ⟨value, inner, rfl⟩ := map_eq_ok_iff.1 decoded
    exact ⟨value, inner, sets value⟩
  keeps := keeps
  blank := blank

/-- A draft that is filled by name has in the component what the member of its name stands for, and
what it had there if there is no such member. -/
theorem Decides.fillByName {name : String} {decoder : Decoder β} {component : σ → Option β}
    (decides : record.Decides name decoder component) {members : List (String × Json)}
    (nodup : (Entries.names members).Nodup) {draft final : σ}
    (filled : record.fillByName draft members = .ok final) :
    (members.lookup name = none ∧ component final = component draft) ∨
      ∃ part value, members.lookup name = some part ∧ decoder.ofJson part = .ok value ∧
        component final = some value := by
  induction members generalizing draft with
  | nil =>
    cases filled
    exact .inl ⟨rfl, rfl⟩
  | cons member rest ih =>
    obtain ⟨found, json⟩ := member
    obtain ⟨fresh, tail⟩ := List.nodup_cons.1 nodup
    rw [Entries.lookup_cons]
    simp only [Record.fillByName] at filled
    by_cases here : name = found
    · rw [if_pos here]
      split at filled
      · rename_i unknown
        have known := decides.known
        rw [here, unknown] at known
        contradiction
      · rename_i field known
        obtain ⟨change, decoded, filled⟩ := bind_eq_ok_iff.1 filled
        rw [← here] at known fresh
        obtain ⟨value, inner, set⟩ := decides.sets field known json change decoded
        rcases ih tail filled with ⟨-, kept⟩ | ⟨part, -, again, -, -⟩
        · exact .inr ⟨json, value, rfl, inner, kept.trans (set draft)⟩
        · exact absurd (Entries.mem_names_of_lookup again) fresh
    · rw [if_neg here]
      split at filled
      · exact ih tail filled
      · rename_i field known
        obtain ⟨change, decoded, filled⟩ := bind_eq_ok_iff.1 filled
        have named : field.name = found := by simpa using List.find?_some known
        have other : field.name ≠ name := fun same => here (same.symm.trans named)
        have keeps := decides.keeps field (List.mem_of_find?_eq_some known) other
        rw [← keeps.decoded decoded draft]
        exact ih tail filled

/-- In the draft that a record takes from a value, the component of a field is what the member of
its name stands for, and empty if there is none. -/
theorem Decides.component {name : String} {decoder : Decoder β} {component : σ → Option β}
    (decides : record.Decides name decoder component) (distinct : record.Distinct) {json : Json}
    {draft : σ} (filled : record.fillByName record.blank (record.membersOf json) = .ok draft) :
    ((record.membersOf json).lookup name = none ∧ component draft = none) ∨
      ∃ part value, (record.membersOf json).lookup name = some part ∧
        decoder.ofJson part = .ok value ∧ component draft = some value := by
  have whole := decides.fillByName (distinct.nodup_membersOf json) filled
  rw [decides.blank] at whole
  exact whole

/-- The draft has in the component of a field what the member of its name stands for. -/
theorem Decides.component_eq_some_iff {name : String} {decoder : Decoder β}
    {component : σ → Option β} (decides : record.Decides name decoder component)
    (distinct : record.Distinct) {json : Json} {draft : σ}
    (filled : record.fillByName record.blank (record.membersOf json) = .ok draft) {value : β} :
    component draft = some value ↔
      ∃ part, (record.membersOf json).lookup name = some part ∧
        decoder.ofJson part = .ok value := by
  rcases decides.component distinct filled with ⟨absent, empty⟩ | ⟨part, found, member, read, set⟩
  · rw [absent, empty]
    simp only [reduceCtorEq, false_and, exists_false]
  · rw [member, set]
    constructor
    · rintro ⟨⟩
      exact ⟨part, rfl, read⟩
    · rintro ⟨_, ⟨⟩, again⟩
      exact congrArg some (Except.ok.inj (read.symm.trans again))

/-- A component that something stands in for when it is missing is what the member of its name
stands for, or the substitute if there is no such member. -/
theorem Decides.getD_component_eq_iff {name : String} {decoder : Decoder β}
    {component : σ → Option β} (decides : record.Decides name decoder component)
    (distinct : record.Distinct) {json : Json} {draft : σ}
    (filled : record.fillByName record.blank (record.membersOf json) = .ok draft)
    {substitute value : β} :
    (component draft).getD substitute = value ↔
      (∃ part, (record.membersOf json).lookup name = some part ∧ decoder.ofJson part = .ok value) ∨
        (record.membersOf json).lookup name = none ∧ value = substitute := by
  rw [← decides.component_eq_some_iff distinct filled]
  rcases decides.component distinct filled with ⟨absent, empty⟩ | ⟨part, found, member, read, set⟩
  · simp only [absent, empty, Option.getD_none, reduceCtorEq, false_or, true_and]
    exact eq_comm
  · simp only [member, set, Option.getD_some, Option.some.injEq, reduceCtorEq, false_and, or_false]

/-- A component that is decoded from nothing but what is written of it is written as the member of
its name. -/
theorem Decides.lookup_eq_some {name : String} {decoder : Decoder β} {component : σ → Option β}
    (decides : record.Decides name decoder component) (distinct : record.Distinct) {json : Json}
    {draft : σ} (filled : record.fillByName record.blank (record.membersOf json) = .ok draft)
    {write : β → Json} (only : ∀ {part value}, decoder.ofJson part = .ok value → part = write value)
    {value : β} (set : component draft = some value) :
    (record.membersOf json).lookup name = some (write value) := by
  obtain ⟨part, found, read⟩ := (decides.component_eq_some_iff distinct filled).1 set
  rw [found, only read]

/-- A component that null stands in for is what the member of its name stands for, if there is one
that is not null. -/
theorem Decides.rel_join {name : String} {decoder : Decoder β} {component : σ → Option (Option β)}
    (decides : record.Decides name decoder.optional component) (distinct : record.Distinct)
    {json : Json} {draft : σ}
    (filled : record.fillByName record.blank (record.membersOf json) = .ok draft) :
    Option.Rel (fun part value => decoder.ofJson part = .ok value)
      (((record.membersOf json).lookup name).filter (· ≠ .null)) (component draft).join := by
  rcases decides.component distinct filled with ⟨absent, empty⟩ | ⟨part, value, found, read, set⟩
  · rw [absent, empty]
    exact .none
  rw [found, set]
  by_cases null : part = .null
  · subst null
    cases read
    exact .none
  · obtain ⟨inner, decoded, rfl⟩ := (Decoder.optional_ofJson_eq_ok_iff null).1 read
    rw [Decoder.filter_some_of_ne_null null]
    exact .some decoded

/-- A component of any kind that null stands in for is the member of its name, if there is one that
is not null. -/
theorem Decides.join_eq_filter {name : String} {component : σ → Option (Option Json)}
    (decides : record.Decides name Decoder.any.optional component) (distinct : record.Distinct)
    {json : Json} {draft : σ}
    (filled : record.fillByName record.blank (record.membersOf json) = .ok draft) :
    (component draft).join = ((record.membersOf json).lookup name).filter (· ≠ .null) := by
  have related := decides.rel_join distinct filled
  generalize ((record.membersOf json).lookup name).filter (· ≠ .null) = member at related ⊢
  generalize (component draft).join = held at related ⊢
  cases related with
  | none => rfl
  | some same => rw [Except.ok.inj same]

end Record

/-! ## Members of a text -/

/-- An object is read where its opening bracket comes next, from the members behind it. -/
theorem Json.exists_readMembers_of_readWithin {length : Nat} {inner : Reader Json}
    {text rest : List Char} {fields : List (String × Json)}
    (read : readWithin length (some inner) text = .ok (.object fields, rest)) :
    ∃ after members, skipBlanks text = '\x7b' :: after ∧
      readMembers inner length length true after = .ok (members, rest) ∧
      fields = (Members.ofList members).entries := by
  unfold readWithin at read
  split at read
  · contradiction
  · rename_i char after front
    by_cases opening : char = '\x7b'
    · rw [opening] at read front
      obtain ⟨⟨members, left⟩, readAll, same⟩ := map_eq_ok_iff.1 read
      cases same
      exact ⟨after, members, front, readAll, rfl⟩
    · rw [if_neg opening] at read
      repeat' split at read
      all_goals first
        | contradiction
        | (obtain ⟨_, -, same⟩ := map_eq_ok_iff.1 read
           cases same)

/-- The object that is read from a text holds the last of the members of each name that stand in the
text. -/
theorem Decoder.exists_entries_of_ofText {text : String} {fields : List (String × Json)}
    (read : Decoder.any.ofText text = .ok (.object fields)) :
    ∃ members, (Decoder.entries .any).ofText text = .ok members ∧
      fields = (Members.ofList members).entries := by
  obtain ⟨⟨value, rest⟩, front, whole⟩ := bind_eq_ok_iff.1 read
  simp only at whole
  split at whole
  · rename_i ended
    cases whole
    obtain ⟨after, members, opening, inside, rfl⟩ := Json.exists_readMembers_of_readWithin front
    have bracket : (Decoder.entries .any).read (.ofText maxDepth text.toList) text.toList =
        .ok (members, rest) := by
      simp only [Decoder.entries, Decoder.readBracket, opening]
      exact inside
    refine ⟨members, ?_, rfl⟩
    rw [Decoder.ofText, readAll, bracket, ok_bind]
    simp only [ended]
  · contradiction

end WalletCore
