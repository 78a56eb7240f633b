import WalletCore.Json.Record
import WalletCore.Proofs.Except
import WalletCore.Proofs.Members

/-! # What is read

A property of the parts of a text carries over to the whole: to the items of an array, the members
of an object and the fields of a record. The same holds of a record that is decoded from a value.
-/
namespace WalletCore

namespace Json

variable {α : Type}

/-- Whether all values that a reader returns have a property. -/
def Yields (reader : Reader α) (property : α → Prop) : Prop :=
  ∀ text value rest, reader text = .ok (value, rest) → property value

/-- The items of an array are what the reader of items returns. -/
theorem readItems_yields {item : Reader α} {property : α → Prop}
    (items : Yields item property) (length : Nat) (first : Bool) :
    Yields (readItems item length first) fun values => ∀ value ∈ values, property value := by
  induction length generalizing first with
  | zero =>
    intro text values rest read
    contradiction
  | succ length ih =>
    intro text values rest read
    obtain ⟨next, -, after⟩ := bind_eq_ok_iff.1 read
    cases next with
    | none =>
      obtain ⟨closed, -, same⟩ := bind_eq_ok_iff.1 after
      cases same
      exact fun value member => absurd member List.not_mem_nil
    | some text =>
      obtain ⟨⟨value, text⟩, readItem, after⟩ := bind_eq_ok_iff.1 after
      obtain ⟨⟨others, text⟩, readOthers, same⟩ := bind_eq_ok_iff.1 after
      cases same
      exact List.forall_mem_cons.2 ⟨items _ _ _ readItem, ih false _ _ _ readOthers⟩

/-- The values of the members of an object are what the reader of values returns. -/
theorem readMembers_yields {value : Reader α} {property : α → Prop}
    (values : Yields value property) (nameLength length : Nat) (first : Bool) :
    Yields (readMembers value nameLength length first) fun members =>
      ∀ member ∈ members, property member.2 := by
  induction length generalizing first with
  | zero =>
    intro text members rest read
    contradiction
  | succ length ih =>
    intro text members rest read
    obtain ⟨next, -, after⟩ := bind_eq_ok_iff.1 read
    cases next with
    | none =>
      obtain ⟨closed, -, same⟩ := bind_eq_ok_iff.1 after
      cases same
      exact fun member here => absurd here List.not_mem_nil
    | some text =>
      obtain ⟨⟨name, text⟩, -, after⟩ := bind_eq_ok_iff.1 after
      obtain ⟨text, -, after⟩ := bind_eq_ok_iff.1 after
      obtain ⟨⟨found, text⟩, readFound, after⟩ := bind_eq_ok_iff.1 after
      obtain ⟨⟨others, text⟩, readOthers, same⟩ := bind_eq_ok_iff.1 after
      cases same
      exact List.forall_mem_cons.2 ⟨values _ _ _ readFound, ih false _ _ _ readOthers⟩

/-- A text holds only what the reader of the whole text returns. -/
theorem Yields.readAll {reader : Reader α} {property : α → Prop} (yields : Yields reader property)
    {text : List Char} {value : α} (read : Json.readAll reader text = .ok value) :
    property value := by
  obtain ⟨⟨found, rest⟩, whole, after⟩ := bind_eq_ok_iff.1 read
  simp only at after
  split at after
  · cases after
    exact yields _ _ _ whole
  · contradiction

end Json

open Json

namespace Decoder

variable {α β : Type}

/-- What is inside a bracket is what the reader of the inside returns, where one bracket less may be
opened. -/
theorem readBracket_yields {inside : Allowance → Reader α} {property : α → Prop}
    {allowance : Allowance}
    (yields : ∀ inner, inner.depth + 1 = allowance.depth → Yields (inside inner) property)
    (opening : Char) (wrong : List Char → DecodeError) :
    Yields (readBracket opening wrong inside allowance) property := by
  intro text value rest read
  unfold readBracket at read
  split at read
  · contradiction
  · split at read
    · split at read
      · contradiction
      · rename_i depth nested
        exact yields _ nested.symm _ _ _ read
    · contradiction

/-- A function of what is read has a property if what is read makes it so. -/
theorem map_yields {decoder : Decoder α} {f : α → β} {property : β → Prop} {allowance : Allowance}
    (yields : Yields (decoder.read allowance) fun value => property (f value)) :
    Yields ((decoder.map f).read allowance) property := by
  intro text value rest read
  obtain ⟨⟨found, _⟩, inner, same⟩ := map_eq_ok_iff.1 read
  cases same
  exact yields _ _ _ inner

/-- The values of the members that are read are what the decoder of values returns. -/
theorem entries_yields {value : Decoder α} {property : α → Prop} {allowance : Allowance}
    (yields : ∀ inner, inner.depth + 1 = allowance.depth → Yields (value.read inner) property) :
    Yields ((entries value).read allowance) fun members => ∀ member ∈ members, property member.2 :=
  readBracket_yields (fun inner deeper => readMembers_yields (yields inner deeper) _ _ _) _ _

end Decoder

namespace Record

variable {σ α : Type} {record : Record σ α} {property : σ → Prop} {allowance : Allowance}

/-- Whether every field that is read keeps a property of the draft. -/
def Keeps (record : Record σ α) (property : σ → Prop) (allowance : Allowance) : Prop :=
  ∀ field ∈ record.fields,
    Yields (field.decoder.read allowance) fun change =>
      ∀ draft, property draft → property (change draft)

/-- A draft that is read by name has what its fields keep. -/
theorem readByName_yields (keeps : record.Keeps property allowance) (length : Nat)
    (first : Bool) {draft : σ} (holds : property draft) :
    Yields (record.readByName allowance length first draft) property := by
  induction length generalizing first draft with
  | zero =>
    intro text value rest read
    contradiction
  | succ length ih =>
    intro text value rest read
    obtain ⟨next, -, after⟩ := bind_eq_ok_iff.1 read
    cases next with
    | none =>
      obtain ⟨closed, -, same⟩ := bind_eq_ok_iff.1 after
      cases same
      exact holds
    | some text =>
      obtain ⟨⟨name, text⟩, -, after⟩ := bind_eq_ok_iff.1 after
      simp only at after
      split at after
      · -- A member that no field takes is passed over.
        obtain ⟨text, -, after⟩ := bind_eq_ok_iff.1 after
        obtain ⟨text, -, after⟩ := bind_eq_ok_iff.1 after
        exact ih false holds _ _ _ after
      · rename_i field found
        split at after
        · contradiction
        · obtain ⟨text, -, after⟩ := bind_eq_ok_iff.1 after
          obtain ⟨⟨change, text⟩, changed, after⟩ := bind_eq_ok_iff.1 after
          have kept := keeps field (List.mem_of_find?_eq_some found) _ _ _ changed
          exact ih false (kept draft holds) _ _ _ after

/-- A draft that is read in order has what its fields keep. -/
theorem readByOrder_yields (keeps : record.Keeps property allowance) (taken : Nat)
    {fields : List (Field σ)} (among : fields ⊆ record.fields) {draft : σ}
    (holds : property draft) :
    Yields (record.readByOrder allowance taken fields draft) property := by
  induction fields generalizing taken draft with
  | nil =>
    intro text value rest read
    cases read
    exact holds
  | cons field fields ih =>
    intro text value rest read
    obtain ⟨here, later⟩ := List.cons_subset.1 among
    obtain ⟨next, -, after⟩ := bind_eq_ok_iff.1 read
    cases next with
    | none =>
      simp only at after
      split at after
      · contradiction
      · exact ih _ later holds _ _ _ after
    | some text =>
      obtain ⟨⟨change, text⟩, changed, after⟩ := bind_eq_ok_iff.1 after
      exact ih _ later (keeps field here _ _ _ changed draft holds) _ _ _ after

/-- A record that is read comes from a draft with what its fields keep. -/
theorem read_yields {outcome : α → Prop}
    (keeps : ∀ inner, inner.depth + 1 = allowance.depth → record.Keeps property inner)
    (blank : property record.blank)
    (finish : ∀ draft value, property draft → record.finish draft = .ok value → outcome value) :
    Yields (record.read allowance) outcome := by
  have inArray : ∀ inner, inner.depth + 1 = allowance.depth →
      Yields (record.readArray inner) outcome := by
    intro inner deeper text value rest read
    obtain ⟨⟨draft, text⟩, filled, after⟩ := bind_eq_ok_iff.1 read
    obtain ⟨made, finished, after⟩ := bind_eq_ok_iff.1 after
    obtain ⟨closed, -, same⟩ := bind_eq_ok_iff.1 after
    cases same
    have holds := readByOrder_yields (keeps inner deeper) 0 (List.Subset.refl _) blank _ _ _ filled
    exact finish draft value holds finished
  have inObject : ∀ inner, inner.depth + 1 = allowance.depth →
      Yields (record.readObject inner) outcome := by
    intro inner deeper text value rest read
    obtain ⟨⟨draft, text⟩, filled, after⟩ := bind_eq_ok_iff.1 read
    obtain ⟨made, finished, same⟩ := bind_eq_ok_iff.1 after
    cases same
    have holds := readByName_yields (keeps inner deeper) inner.length true blank _ _ _ filled
    exact finish draft value holds finished
  intro text value rest read
  unfold Record.read at read
  split at read
  · exact Decoder.readBracket_yields inArray _ _ _ _ _ read
  · exact Decoder.readBracket_yields inObject _ _ _ _ _ read

/-! ## From values -/

/-- Whether a value is an array or object whose parts have a property. -/
inductive Parts (source : Json → Prop) : Json → Prop where
  /-- An array of such items. -/
  | array {items : List Json} (each : ∀ item ∈ items, source item) : Parts source (.array items)
  /-- An object of such values. -/
  | object {members : List (String × Json)} (each : ∀ member ∈ members, source member.2) :
    Parts source (.object members)

/-- Whether every field that is decoded from a part with one property keeps another one of the
draft. -/
def KeepsDecoded (record : Record σ α) (source : Json → Prop) (property : σ → Prop) : Prop :=
  ∀ field ∈ record.fields, ∀ part, source part → ∀ change, field.decoder.ofJson part = .ok change →
    ∀ draft, property draft → property (change draft)

/-- A draft that is filled by name has what its fields keep. -/
theorem fillByName_yields {source : Json → Prop} (keeps : record.KeepsDecoded source property)
    {members : List (String × Json)} (parts : ∀ member ∈ members, source member.2)
    {draft final : σ} (holds : property draft)
    (filled : record.fillByName draft members = .ok final) : property final := by
  induction members generalizing draft with
  | nil =>
    cases filled
    exact holds
  | cons member members ih =>
    obtain ⟨here, later⟩ := List.forall_mem_cons.1 parts
    simp only [fillByName] at filled
    split at filled
    · exact ih later holds filled
    · rename_i field found
      obtain ⟨change, decoded, filled⟩ := bind_eq_ok_iff.1 filled
      have kept := keeps field (List.mem_of_find?_eq_some found) _ here change decoded
      exact ih later (kept draft holds) filled

/-- A draft that is filled in order has what its fields keep. -/
theorem fillByOrder_yields {source : Json → Prop} (keeps : record.KeepsDecoded source property)
    {fields : List (Field σ)} (among : fields ⊆ record.fields) {items left : List Json}
    (parts : ∀ item ∈ items, source item) (taken : Nat) {draft final : σ} (holds : property draft)
    (filled : record.fillByOrder taken fields draft items = .ok (final, left)) :
    property final := by
  induction fields generalizing taken items draft with
  | nil =>
    cases filled
    exact holds
  | cons field fields ih =>
    obtain ⟨here, later⟩ := List.cons_subset.1 among
    cases items with
    | nil =>
      simp only [fillByOrder] at filled
      split at filled
      · contradiction
      · exact ih later parts _ holds filled
    | cons item items =>
      obtain ⟨first, others⟩ := List.forall_mem_cons.1 parts
      obtain ⟨change, decoded, filled⟩ := bind_eq_ok_iff.1 filled
      exact ih later others _ (keeps field here _ first change decoded draft holds) filled

/-- A record that is decoded comes from a draft with what its fields keep. -/
theorem ofJson_yields {source : Json → Prop} {outcome : α → Prop}
    (keeps : record.KeepsDecoded source property) (blank : property record.blank)
    (finish : ∀ draft value, property draft → record.finish draft = .ok value → outcome value)
    {json : Json} (parts : Parts source json) {value : α}
    (decoded : record.ofJson json = .ok value) : outcome value := by
  cases parts with
  | array each =>
    obtain ⟨⟨draft, left⟩, filled, decoded⟩ := bind_eq_ok_iff.1 decoded
    obtain ⟨made, finished, decoded⟩ := bind_eq_ok_iff.1 decoded
    split at decoded
    · cases decoded
      have holds := fillByOrder_yields keeps (List.Subset.refl _) each 0 blank filled
      exact finish draft value holds finished
    · contradiction
  | object each =>
    obtain ⟨draft, filled, finished⟩ := bind_eq_ok_iff.1 decoded
    have stored : ∀ member ∈ (Members.ofList _).entries, source member.2 := fun member inside =>
      each member (Members.mem_of_mem_ofList inside)
    exact finish draft value (fillByName_yields keeps stored blank filled) finished

end Record

/-! ## From either -/

namespace Decoder

variable {α β : Type} {decoder : Decoder α} {property : α → Prop}

/-- Whether all values that a decoder returns have a property, those that are decoded from a JSON
value and those that are read from a text. -/
structure Returns (decoder : Decoder α) (property : α → Prop) : Prop where
  /-- What is decoded has the property. -/
  decoded : ∀ {json value}, decoder.ofJson json = .ok value → property value
  /-- What is read has the property. -/
  read : ∀ allowance, Yields (decoder.read allowance) property

/-- A function of what a decoder returns has a property if what is returned makes it so. -/
theorem Returns.map (returns : decoder.Returns property) {f : α → β} {image : β → Prop}
    (carries : ∀ value, property value → image (f value)) : (decoder.map f).Returns image where
  decoded := by
    intro json value decoded
    obtain ⟨found, inner, rfl⟩ := map_eq_ok_iff.1 decoded
    exact carries found (returns.decoded inner)
  read allowance :=
    map_yields fun _ value _ read => carries value (returns.read allowance _ _ _ read)

/-- A function has a property whatever is returned if all its values have it. -/
@[simp]
theorem returns_map {f : α → β} {image : β → Prop} (each : ∀ value, image (f value)) :
    (decoder.map f).Returns image := by
  have anything : decoder.Returns fun _ => True := ⟨fun _ => trivial, fun _ _ _ _ _ => trivial⟩
  exact anything.map fun value _ => each value

/-- A value that may be missing is returned as missing, or as its decoder returns it. -/
theorem Returns.optional (returns : decoder.Returns property) :
    decoder.optional.Returns fun value => ∀ found, value = some found → property found where
  decoded := by
    rintro json _ decoded found rfl
    simp only [Decoder.optional] at decoded
    split at decoded
    · cases decoded
    · obtain ⟨value, inner, same⟩ := map_eq_ok_iff.1 decoded
      cases same
      exact returns.decoded inner
  read allowance := by
    rintro text _ rest read found rfl
    simp only [Decoder.optional] at read
    split at read
    · obtain ⟨_, -, same⟩ := map_eq_ok_iff.1 read
      cases same
    · obtain ⟨⟨value, _⟩, inner, same⟩ := map_eq_ok_iff.1 read
      cases same
      exact returns.read allowance _ _ _ inner

/-- Whether a value was received: decoded from a JSON value, or read from a text. -/
inductive Received (decoder : Decoder α) (value : α) : Prop where
  /-- It was decoded from a JSON value. -/
  | decoded {json : Json} (decoded : decoder.ofJson json = .ok value) : Received decoder value
  /-- It was read from a text. -/
  | read {text : String} (read : decoder.ofText text = .ok value) : Received decoder value

/-- What was received is what the decoder returns. -/
theorem Returns.of_received (returns : decoder.Returns property) {value : α}
    (received : decoder.Received value) : property value := by
  cases received with
  | decoded decoded => exact returns.decoded decoded
  | read read => exact (returns.read _).readAll read

end Decoder

namespace Record

variable {σ α : Type} {record : Record σ α} {property : σ → Prop}

/-- Whether every field keeps a property of the draft, decoded or read. -/
def Upholds (record : Record σ α) (property : σ → Prop) : Prop :=
  ∀ field ∈ record.fields, field.decoder.Returns fun change =>
    ∀ draft, property draft → property (change draft)

/-- A record that is returned comes from a draft with what its fields keep. -/
theorem Upholds.returns {outcome : α → Prop} (upholds : record.Upholds property)
    (blank : property record.blank)
    (finish : ∀ draft value, property draft → record.finish draft = .ok value → outcome value) :
    record.decoder.Returns outcome where
  decoded := by
    intro json value decoded
    have keeps : record.KeepsDecoded (fun _ => True) property :=
      fun field member _ _ _ changed => (upholds field member).decoded changed
    cases json with
    | array items => exact ofJson_yields keeps blank finish (.array fun _ _ => trivial) decoded
    | object members => exact ofJson_yields keeps blank finish (.object fun _ _ => trivial) decoded
    | null | bool | number | string => contradiction
  read allowance :=
    read_yields (fun inner _ field member => (upholds field member).read inner) blank finish

end Record

end WalletCore
