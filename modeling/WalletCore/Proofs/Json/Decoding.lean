import WalletCore.Json.Record
import WalletCore.Proofs.Except
import WalletCore.Proofs.Table

/-! # Values are decoded as they were made

Lists, tables and free members are decoded from the JSON values that stand for them. A record is
decoded from an object if each member of it is a field and is decoded as a change of the draft. Null
stands in for a value that is missing, so a value that may be missing is decoded from itself unless
it is null.
-/
namespace WalletCore

namespace Decoder

/-- Items that are decoded from what is written of them are decoded again. -/
theorem list_map {α : Type} {item : Decoder α} {write : α → Json}
    (kept : ∀ stored, item.ofJson (write stored) = .ok stored) (items : List α) :
    (Decoder.list item).ofJson (.array (items.map write)) = .ok items := by
  have each : item.ofJson ∘ write = fun stored => pure stored := funext kept
  simp only [Decoder.list]
  rw [List.mapM_map, each, List.mapM_pure, List.map_id']
  rfl

/-- A list of strings that is written is decoded again. -/
theorem list_string_ofStrings (items : List String) :
    (Decoder.list .string).ofJson (.ofStrings items) = .ok items :=
  list_map (fun _ => rfl) items

/-- A string is decoded from itself only. -/
theorem string_ofJson_eq_ok_iff {json : Json} {text : String} :
    Decoder.string.ofJson json = .ok text ↔ json = .string text := by
  cases json with
  | string found => simp [Decoder.string]
  | null | bool | number | array | object =>
    exact iff_of_false (fun decoded => by contradiction) (fun same => by contradiction)

/-- A truth value is decoded from itself only. -/
theorem bool_ofJson_eq_ok_iff {json : Json} {truth : Bool} :
    Decoder.bool.ofJson json = .ok truth ↔ json = .bool truth := by
  cases json with
  | bool found => simp [Decoder.bool]
  | null | number | string | array | object =>
    exact iff_of_false (fun decoded => by contradiction) (fun same => by contradiction)

/-- A list whose items are decoded only from what is written of them is decoded only from the array
of what is written of its items. -/
theorem list_ofJson_eq_ok_iff {α : Type} {item : Decoder α} {write : α → Json}
    (only : ∀ {json value}, item.ofJson json = .ok value ↔ json = write value) {json : Json}
    {values : List α} :
    (Decoder.list item).ofJson json = .ok values ↔ json = .array (values.map write) := by
  constructor
  · intro decoded
    cases json with
    | array items =>
      simp only [Decoder.list] at decoded
      induction items generalizing values with
      | nil =>
        cases decoded
        rfl
      | cons first rest ih =>
        rw [List.mapM_cons] at decoded
        obtain ⟨value, here, decoded⟩ := bind_eq_ok_iff.1 decoded
        obtain ⟨others, later, same⟩ := bind_eq_ok_iff.1 decoded
        cases same
        rw [only.1 here, Json.array.inj (ih later)]
        rfl
    | null | bool | number | string | object => contradiction
  · rintro rfl
    exact list_map (fun _ => only.2 rfl) values

/-- Members whose values are decoded from what is written of them are decoded again. -/
theorem entries_map {α : Type} {value : Decoder α} {write : α → Json}
    (kept : ∀ stored, value.ofJson (write stored) = .ok stored) (entries : List (String × α)) :
    (Decoder.entries value).ofJson (.object (entries.map fun entry => (entry.1, write entry.2))) =
      .ok entries := by
  induction entries with
  | nil => rfl
  | cons entry rest ih =>
    simp only [Decoder.entries, List.map_cons, List.mapM_cons, kept] at ih ⊢
    rw [ih]
    rfl

/-- The members of an object are decoded as they are. -/
theorem entries_any (members : List (String × Json)) :
    (Decoder.entries .any).ofJson (.object members) = .ok members := by
  have same : members.map (fun entry => (entry.1, id entry.2)) = members := List.map_id _
  have decoded : (Decoder.entries .any).ofJson
      (.object (members.map fun entry => (entry.1, id entry.2))) = .ok members :=
    entries_map (fun _ => rfl) members
  rw [same] at decoded
  exact decoded

/-- Free members are decoded from an object, in which the last value of a name holds. -/
theorem members_ofJson_eq_ok_iff {json : Json} {members : Members Json} :
    Decoder.members.ofJson json = .ok members ↔
      ∃ entries, json = .object entries ∧ members = Members.ofList entries := by
  constructor
  · intro decoded
    obtain ⟨entries, read, rfl⟩ := map_eq_ok_iff.1 decoded
    cases json with
    | object found =>
      rw [entries_any] at read
      cases read
      exact ⟨_, rfl, rfl⟩
    | null | bool | number | string | array => contradiction
  · rintro ⟨entries, rfl, rfl⟩
    exact map_eq_ok_iff.2 ⟨entries, entries_any entries, rfl⟩

/-- Members that are written are decoded again. -/
theorem members_ofMembers (members : Members Json) :
    Decoder.members.ofJson (.ofMembers members) = .ok members := by
  simp only [Decoder.members, Decoder.map, Json.ofMembers, entries_any]
  exact congrArg Except.ok (Members.ext_entries (Members.entries_ofList members.nodup))

/-- Where the values of members are decoded one by one, what is found under a key among the members
is decoded as what is found under it in the table. -/
theorem rel_get?_of_mapM {α : Type} {value : Decoder α} {members : List (String × Json)}
    {entries : List (String × α)}
    (decoded : members.mapM (fun (name, found) => do .ok (name, ← value.ofJson found)) =
      .ok entries) (key : String) :
    Option.Rel (fun found stored => value.ofJson found = .ok stored)
      ((Members.ofList members).get? key) ((Table.ofList entries).get? key) := by
  -- What was stored before the members that are left is related in the same way.
  suffices each : ∀ (held : Members Json) (table : Table α),
      (∀ key, Option.Rel (fun found stored => value.ofJson found = .ok stored) (held.get? key)
        (table.get? key)) →
      Option.Rel (fun found stored => value.ofJson found = .ok stored)
        ((held.putAll members).get? key)
        ((entries.foldl (fun table entry => table.insert entry.1 entry.2) table).get? key) from
    each .empty .empty fun _ => .none
  induction members generalizing entries with
  | nil =>
    cases decoded
    exact fun held table related => related key
  | cons member rest ih =>
    intro held table related
    rw [List.mapM_cons] at decoded
    obtain ⟨entry, here, decoded⟩ := bind_eq_ok_iff.1 decoded
    obtain ⟨others, later, same⟩ := bind_eq_ok_iff.1 decoded
    cases same
    obtain ⟨stored, read, same⟩ := bind_eq_ok_iff.1 here
    cases same
    refine ih later _ _ fun other => ?_
    rw [Members.get?_put, Table.get?_insert]
    by_cases named : other = member.1
    · rw [if_pos named, if_pos named]
      exact .some read
    · rw [if_neg named, if_neg named]
      exact related other

/-- A table is decoded from an object whose values are all decoded: it has the keys of the object,
and under each of them what its last value is decoded as. -/
theorem table_ofJson_eq_ok_iff {α : Type} {value : Decoder α} {json : Json} {table : Table α} :
    (Decoder.table value).ofJson json = .ok table ↔ ∃ members, json = .object members ∧
      (∀ member ∈ members, ∃ stored, value.ofJson member.2 = .ok stored) ∧
      ∀ key, Option.Rel (fun found stored => value.ofJson found = .ok stored)
        ((Members.ofList members).get? key) (table.get? key) := by
  constructor
  · intro decoded
    obtain ⟨entries, read, rfl⟩ := map_eq_ok_iff.1 decoded
    cases json with
    | object members =>
      refine ⟨members, rfl, fun member inside => ?_, rel_get?_of_mapM read⟩
      obtain ⟨entry, here⟩ := exists_ok_of_mapM read inside
      obtain ⟨stored, found, -⟩ := bind_eq_ok_iff.1 here
      exact ⟨stored, found⟩
    | null | bool | number | string | array => contradiction
  · rintro ⟨members, rfl, each, related⟩
    obtain ⟨entries, read⟩ : ∃ entries,
        members.mapM (fun (name, found) => do .ok (name, ← value.ofJson found)) = .ok entries := by
      refine exists_mapM_eq_ok_iff.2 fun member inside => ?_
      obtain ⟨stored, found⟩ := each member inside
      exact ⟨(member.1, stored), bind_eq_ok_iff.2 ⟨stored, found, rfl⟩⟩
    refine map_eq_ok_iff.2 ⟨entries, read, Table.ext_get? fun key => ?_⟩
    -- Both tables hold what one and the same value is decoded as.
    have decoded := rel_get?_of_mapM read key
    have given := related key
    generalize (Members.ofList members).get? key = found at decoded given
    generalize (Table.ofList entries).get? key = left at decoded ⊢
    generalize table.get? key = right at given ⊢
    cases decoded with
    | none =>
      cases given
      rfl
    | some read =>
      cases given with
      | some holds => rw [Except.ok.inj (read.symm.trans holds)]

/-- What a decoder decodes is decoded into what becomes of it. -/
theorem map_ofJson {α β : Type} {decoder : Decoder α} {json : Json} {value : α}
    (decoded : decoder.ofJson json = .ok value) (f : α → β) :
    (decoder.map f).ofJson json = .ok (f value) := by
  simp only [Decoder.map, decoded]
  rfl

/-- A value that may be missing is decoded as it is, unless null stands for it. -/
theorem optional_ofJson_eq_ok_iff {α : Type} {decoder : Decoder α} {json : Json}
    {value : Option α} (notNull : json ≠ .null) :
    decoder.optional.ofJson json = .ok value ↔
      ∃ found, decoder.ofJson json = .ok found ∧ some found = value := by
  cases json with
  | null => contradiction
  | bool | number | string | array | object => exact map_eq_ok_iff

/-- A value other than null is not taken for what is missing. -/
theorem filter_some_of_ne_null {json : Json} (notNull : json ≠ .null) :
    (some json).filter (· ≠ .null) = some json :=
  Option.filter_some_pos (decide_eq_true notNull)

/-- Any value that may be missing is decoded as itself, and as missing if it is null. -/
theorem any_optional_ofJson (json : Json) :
    Decoder.any.optional.ofJson json = .ok ((some json).filter (· ≠ .null)) := by
  by_cases null : json = .null
  · rw [null]
    rfl
  · rw [filter_some_of_ne_null null]
    exact (optional_ofJson_eq_ok_iff null).2 ⟨json, rfl, rfl⟩

/-- Where null was not decoded, none is left to be taken for what is missing. -/
theorem filter_join_of_ne_null {read : Option (Option Json)} (other : read ≠ some (some .null)) :
    read.join.filter (· ≠ .null) = read.join := by
  cases found : read.join with
  | none => rfl
  | some value =>
    have notNull : value ≠ .null := fun null =>
      other (null ▸ Option.join_eq_some_iff.1 found)
    exact filter_some_of_ne_null notNull

/-- An unsigned word is decoded from its number. -/
theorem unsigned_ofUInt64 (word : UInt64) :
    unsigned.ofJson (.number (.ofUInt64 word)) = .ok word := by
  have converted : UInt64.ofNat (word.toNat : Int).toNat = word := by simp
  simp only [unsigned, numeric, Number.ofUInt64, Int.natCast_nonneg, ↓reduceIte, converted]

/-- A signed word is decoded from its number. -/
theorem signed_ofInt64 (word : Int64) : signed.ofJson (.number (.ofInt64 word)) = .ok word := by
  have below : word.toInt ≤ Int64.maxValue.toInt := Int64.toInt_le word
  simp only [signed, numeric, Number.ofInt64, below, ↓reduceIte, Int64.ofInt_toInt]

end Decoder

/-- A member of a field changes the draft, and the members after it are gone through. -/
theorem Record.fillByName_cons {σ α : Type} (record : Record σ α) (name : String)
    {field : Field σ} {json : Json} {change : σ → σ} (known : record.field? name = some field)
    (decoded : field.decoder.ofJson json = .ok change) (draft : σ)
    (rest : List (String × Json)) :
    record.fillByName draft ((name, json) :: rest) = record.fillByName (change draft) rest := by
  rw [fillByName, known]
  simp only [decoded]
  rfl

namespace Record

variable {σ α : Type} {record : Record σ α}

/-- A field that a record requires is there. -/
theorem require_eq_ok_iff {name : String} {value : Option α} {result : α} :
    require name value = .ok result ↔ value = some result := by
  cases value with
  | none => exact iff_of_false (fun required => by contradiction) (Option.some_ne_none _).symm
  | some found => simp [require]

/-- Members that are taken into a draft one by one: each is a field and is decoded as a change of
the draft. -/
inductive Takes (record : Record σ α) : σ → List (String × Json) → σ → Prop where
  /-- There are no members. -/
  | done (draft : σ) : Takes record draft [] draft
  /-- The first member changes the draft, and the others are taken into what it has become. -/
  | field {draft final : σ} {name : String} {json : Json} {members : List (String × Json)}
      {field : Field σ} {change : σ → σ} (known : record.field? name = some field)
      (decoded : field.decoder.ofJson json = .ok change)
      (others : Takes record (change draft) members final) :
    Takes record draft ((name, json) :: members) final

/-- A member that may be missing changes the draft if it is there. -/
theorem Takes.optional {draft final : σ} {name : String} {value : Option α}
    {members : List (String × Json)} {β : Type} {record : Record σ β} {write : α → Json}
    {field : Field σ} {change : α → σ → σ} (known : record.field? name = some field)
    (decoded : ∀ stored, field.decoder.ofJson (write stored) = .ok (change stored))
    (others : record.Takes (value.elim draft (change · draft)) members final) :
    record.Takes draft ((value.elim [] fun stored => [(name, write stored)]) ++ members) final := by
  cases value with
  | none => exact others
  | some stored => exact .field known (decoded stored) others

/-- Members that are taken into a draft fill it. -/
theorem Takes.fillByName {draft final : σ} {members : List (String × Json)}
    (takes : record.Takes draft members final) :
    record.fillByName draft members = .ok final := by
  induction takes with
  | done draft => rfl
  | field known decoded others ih => rw [record.fillByName_cons _ known decoded, ih]

/-- A record is decoded from an object of distinct names whose members fill the draft. -/
theorem Takes.ofJson {final : σ} {members : List (String × Json)} {value : α}
    (takes : record.Takes record.blank members final) (distinct : (Entries.names members).Nodup)
    (finished : record.finish final = .ok value) :
    record.decoder.ofJson (.object members) = .ok value := by
  change (do record.finish (← record.fillByName record.blank
    (Members.ofList members).entries)) = _
  rw [Members.entries_ofList distinct, takes.fillByName]
  exact finished

end Record

end WalletCore
