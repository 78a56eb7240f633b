import WalletCore.Proofs.Json.Decoding
import WalletCore.Proofs.Json.RoundTrip

/-! # Records are read as they were written

A record is restored from an object if each member of it is a field, is there once, and is restored
as a change of the draft. With the decoders of words and of free members this covers what is written
as a record by hand.
-/
namespace WalletCore

open Json

namespace Decoder

variable {α β : Type}

/-- A function of what is restored is restored. -/
theorem map_restores {decoder : Decoder α} {allowance : Allowance} {text : List Char} {value : α}
    (f : α → β) (restores : Restores (decoder.read allowance) text value) :
    Restores ((decoder.map f).read allowance) text (f value) := by
  refine ⟨restores.solid, fun {blanks rest} blank delimited => ?_⟩
  have read := restores.read blank delimited
  simp only [map, read]
  rfl

/-- A number that is converted is restored from its written form. -/
theorem numeric_restores {expected : Expected} {convert : Number → Except DecodeError α}
    (allowance : Allowance) {number : Number} (whole : number.Whole) {value : α}
    (converted : convert number = .ok value) :
    Restores ((numeric expected convert).read allowance) number.text value := by
  obtain ⟨char, others, text, front⟩ := text_front whole
  have solid := (restores_number 0 none whole).solid
  refine ⟨solid, fun {blanks rest} blank delimited => ?_⟩
  have read := readNumber_text whole delimited
  have noBlank : isBlank char = false := by
    obtain ⟨first, later, same, noBlank, -⟩ := solid
    rw [text] at same
    cases same
    exact noBlank
  rw [text, List.cons_append] at read
  rw [text, List.append_assoc, List.cons_append]
  simp only [numeric]
  rw [skipBlanks_append blank, skipBlanks_cons noBlank]
  simp only [front, ↓reduceIte, read, ok_bind, converted]

/-- An unsigned word is restored from its number. -/
theorem unsigned_restores (allowance : Allowance) (word : UInt64) :
    Restores (unsigned.read allowance) (Number.ofUInt64 word).text word :=
  numeric_restores allowance (.integer _ _) (unsigned_ofUInt64 word)

/-- A signed word is restored from its number. -/
theorem signed_restores (allowance : Allowance) (word : Int64) :
    Restores (signed.read allowance) (Number.ofInt64 word).text word :=
  numeric_restores allowance (.integer _ _) (signed_ofInt64 word)

/-- A string is restored from its written form. -/
theorem string_restores {allowance : Allowance} {text : String}
    (enough : (writeString text).length < allowance.length) :
    Restores (Decoder.string.read allowance) (writeString text) text := by
  have short := Nat.lt_trans (length_writeString text) enough
  refine ⟨⟨'"', _, rfl, rfl, by decide⟩, fun {blanks rest} blank _ => ?_⟩
  have read := readString_escape short rest
  simp only [writeString, List.cons_append, List.append_assoc, List.nil_append]
  simp only [Decoder.string]
  rw [skipBlanks_append blank, skipBlanks_cons rfl]
  exact read

/-- A missing value is restored from null. -/
theorem optional_restores_null (decoder : Decoder α) (allowance : Allowance) (layout : Layout)
    (indent : Nat) :
    Restores (decoder.optional.read allowance) (write layout indent .null) none := by
  refine ⟨⟨'n', _, rfl, rfl, by decide⟩, fun {blanks rest} blank _ => ?_⟩
  have front : write layout indent .null = ['n', 'u', 'l', 'l'] := rfl
  rw [List.append_assoc, front, List.cons_append]
  simp only [optional]
  rw [skipBlanks_append blank, skipBlanks_cons rfl]
  rfl

/-- A value that may be missing is restored from a text that cannot be null. -/
theorem optional_restores {decoder : Decoder α} {allowance : Allowance} {text : List Char}
    {value : α} (restores : Restores (decoder.read allowance) text value)
    (notNull : text.head? ≠ some 'n') :
    Restores (decoder.optional.read allowance) text (some value) := by
  refine ⟨restores.solid, fun {blanks rest} blank delimited => ?_⟩
  have read := restores.read (List.forall_mem_nil _) delimited
  obtain ⟨char, others, rfl, noBlank, -⟩ := restores.solid
  have other : char ≠ 'n' := fun same => notNull (congrArg some same)
  rw [List.nil_append, List.cons_append] at read
  rw [List.append_assoc, List.cons_append]
  simp only [optional]
  rw [skipBlanks_append blank, skipBlanks_cons noBlank]
  split
  · rename_i same
    exact absurd (List.cons.inj same).1 other
  · simp only [read]
    rfl

/-- The written form of a value begins like null only if the value is null. -/
theorem head?_write {layout : Layout} (plain : layout.Plain) {depth : Nat} {value : Json}
    (storable : Storable depth value) (notNull : value ≠ .null) (indent : Nat) :
    (write layout indent value).head? ≠ some 'n' := by
  cases storable with
  | null => contradiction
  | bool depth value => cases value <;> simp [write]
  | number depth whole =>
    obtain ⟨char, others, text, front⟩ := text_front whole
    rw [write, text]
    rintro ⟨⟩
    rcases front with sign | digit
    · contradiction
    · contradiction
  | string depth value => simp [write, writeString]
  | @array _ items inner =>
    obtain ⟨ending, -, enclosed⟩ := Layout.enclose_eq plain indent '[' ']'
      (writeItems layout (indent + 1) items)
    simp [write, enclosed]
  | @object _ members distinct inner =>
    obtain ⟨ending, -, enclosed⟩ := Layout.enclose_eq plain indent '\x7b' '\x7d'
      (writeMembers layout (indent + 1) members)
    simp [write, enclosed]

/-- Any value that may be missing is restored as itself, and as missing if it is null. -/
theorem any_optional_restores {layout : Layout} (plain : layout.Plain) {depth length : Nat}
    {value : Json} (storable : Storable depth value) (indent : Nat)
    (enough : (write layout indent value).length < length) :
    Restores (Decoder.any.optional.read ⟨depth, length⟩) (write layout indent value)
      ((some value).filter (· ≠ .null)) := by
  by_cases null : value = .null
  · rw [null]
    exact optional_restores_null _ _ _ _
  · have kept : (some value).filter (· ≠ .null) = some value := by simp [Option.filter, null]
    rw [kept]
    exact optional_restores (restores_write plain storable indent enough)
      (head?_write plain storable null indent)

/-- A value that may be missing is never returned as null. -/
theorem any_optional_returns : Decoder.any.optional.Returns (· ≠ some .null) where
  decoded := by
    intro json value decoded null
    rw [any_optional_ofJson] at decoded
    cases decoded
    have kept := Option.filter_eq_some_iff.1 null
    simp at kept
  read := by
    rintro allowance text value rest read rfl
    simp only [optional] at read
    split at read
    · obtain ⟨_, -, same⟩ := map_eq_ok_iff.1 read
      cases same
    · rename_i other
      obtain ⟨⟨found, _⟩, inner, same⟩ := map_eq_ok_iff.1 read
      cases same
      have letter := head?_of_readValue_null inner
      rw [skipBlanks_skipBlanks] at letter
      obtain ⟨others, front⟩ := List.head?_eq_some_iff.1 letter
      exact other _ front

/-- A list is restored from the array of what is written of its items. -/
theorem list_restores {layout : Layout} (plain : layout.Plain) {depth length : Nat}
    {item : Decoder α} {writeItem : α → Json} {values : List α} (indent : Nat)
    (restores : ∀ value ∈ values, Restores (item.read ⟨depth, length⟩)
      (write layout (indent + 1) (writeItem value)) value)
    (enough : (write layout indent (.array (values.map writeItem))).length < length) :
    Restores ((list item).read ⟨depth + 1, length⟩)
      (write layout indent (.array (values.map writeItem))) values := by
  obtain ⟨ending, blank, enclosed⟩ := Layout.enclose_eq plain indent '[' ']'
    (writeItems layout (indent + 1) (values.map writeItem))
  obtain ⟨-, fewer⟩ := length_write_array plain indent (values.map writeItem)
  rw [List.length_map] at fewer
  rw [write, enclosed, writeItems_eq, List.map_map]
  refine ⟨⟨'[', _, rfl, rfl, by decide⟩, fun {blanks rest} blankFront _ => ?_⟩
  have read := readItems_parts plain (indent + 1) restores (Nat.lt_trans fewer enough) true blank
    rest
  simp only [list, readBracket, List.append_assoc, List.cons_append, List.nil_append]
  rw [skipBlanks_append blankFront, skipBlanks_cons rfl]
  exact read

/-- The members of an object are restored from it. -/
theorem entries_restores {layout : Layout} (plain : layout.Plain) {depth length : Nat}
    {members : List (String × Json)} (storable : ∀ member ∈ members, Storable depth member.2)
    (indent : Nat) (enough : (write layout indent (.object members)).length < length) :
    Restores ((entries any).read ⟨depth + 1, length⟩) (write layout indent (.object members))
      members := by
  obtain ⟨ending, blank, enclosed⟩ := write_object plain indent members
  obtain ⟨shorter, fewer⟩ := length_write_object plain indent members
  have restores : ∀ member ∈ members, Restores (readValue length depth)
      (write layout (indent + 1) member.2) member.2 := fun member inside =>
    restores_write plain (storable member inside) (indent + 1)
      (Nat.lt_trans (shorter member inside).2 enough)
  have names : ∀ member ∈ members, member.1.toList.length < length := fun member inside =>
    Nat.lt_trans (shorter member inside).1 enough
  refine ⟨solid_object plain indent members, fun {blanks rest} blankFront _ => ?_⟩
  have read := readMembers_parts plain (indent + 1) restores names (Nat.lt_trans fewer enough)
    true blank rest
  rw [List.append_assoc, enclosed]
  simp only [entries, readBracket]
  rw [skipBlanks_append blankFront, skipBlanks_cons rfl]
  exact read

/-- Free members are restored from the object of them. -/
theorem members_restores {layout : Layout} (plain : layout.Plain) {depth length : Nat}
    {members : Members Json} (storable : ∀ member ∈ members.entries, Storable depth member.2)
    (indent : Nat) (enough : (write layout indent (.ofMembers members)).length < length) :
    Restores (Decoder.members.read ⟨depth + 1, length⟩) (write layout indent (.ofMembers members))
      members := by
  have same : Members.ofList members.entries = members :=
    Members.ext_entries (Members.entries_ofList members.nodup)
  have restored := map_restores Members.ofList (entries_restores plain storable indent enough)
  rw [same] at restored
  exact restored

end Decoder

namespace Record

variable {σ α : Type} {record : Record σ α} {layout : Layout} {allowance : Allowance}

/-- Members that fill a draft one by one: each is a field that the draft lacks, and its change of
the draft is restored. -/
inductive Fills (record : Record σ α) (allowance : Allowance) (written : Json → List Char) :
    σ → List (String × Json) → σ → Prop where
  /-- There are no members. -/
  | done (draft : σ) : Fills record allowance written draft [] draft
  /-- The first member changes the draft, and the others fill what it has become. -/
  | field {draft final : σ} {name : String} {value : Json} {members : List (String × Json)}
      {field : Field σ} {change : σ → σ} (known : record.field? name = some field)
      (lacking : field.filled draft = false)
      (restores : Restores (field.decoder.read allowance) (written value) change)
      (others : Fills record allowance written (change draft) members final) :
    Fills record allowance written draft ((name, value) :: members) final

/-- A member that may be missing fills the draft if it is there. -/
theorem Fills.optional {β : Type} {written : Json → List Char} {draft final : σ} {name : String}
    {value : Option β} {members : List (String × Json)} {write : β → Json} {field : Field σ}
    {change : β → σ → σ} (known : record.field? name = some field)
    (lacking : field.filled draft = false)
    (restores : ∀ stored, value = some stored →
      Restores (field.decoder.read allowance) (written (write stored)) (change stored))
    (others : record.Fills allowance written (value.elim draft (change · draft)) members final) :
    record.Fills allowance written draft
      ((value.elim [] fun stored => [(name, write stored)]) ++ members) final := by
  cases value with
  | none => exact others
  | some stored => exact .field known lacking (restores stored rfl) others

/-- Members that fill a draft are read as it. -/
theorem Fills.readByName (plain : layout.Plain) (indent : Nat) {written : Json → List Char}
    {draft final : σ} {members : List (String × Json)}
    (fills : Fills record allowance written draft members final)
    (names : ∀ member ∈ members, member.1.toList.length < allowance.length) {length : Nat}
    (enough : members.length < length) (first : Bool) {ending : List Char} (blank : Blank ending)
    (rest : List Char) :
    record.readByName allowance length first draft
        (layout.parts indent first
          (members.map fun member => layout.member member.1 (written member.2)) ++
          (ending ++ '\x7d' :: rest)) =
      .ok (final, rest) := by
  induction fills generalizing length first with
  | done draft =>
    obtain ⟨length, rfl⟩ := Nat.exists_eq_add_of_lt enough
    obtain ⟨last, closed⟩ := nextMember_ending first blank rest
    simp [Record.readByName, Layout.parts, last, closed, ok_bind]
  | @field draft final name value members field change known lacking restores others ih =>
    cases length with
    | zero => exact absurd enough (Nat.not_lt_zero _)
    | succ length =>
      have fewer : members.length < length := Nat.lt_of_succ_lt_succ enough
      obtain ⟨short, later⟩ := List.forall_mem_cons.1 names
      have after := layout.delimited_parts indent
        (members.map fun member => layout.member member.1 (written member.2))
        (.append blank (delimited_closing (.inr rfl) rest))
      obtain ⟨inName, behindName, inValue, begins, named, parted, found⟩ :=
        restores.member plain indent first short after
      rw [List.map_cons, Layout.parts, List.append_assoc]
      simp only [Record.readByName, begins, named, known, lacking, parted, found, ok_bind,
        Bool.false_eq_true, ↓reduceIte, ih later fewer false]

/-- A record is restored from an object whose members fill the draft. -/
theorem read_restores (plain : layout.Plain) (indent : Nat) {depth length : Nat} {final : σ}
    {members : List (String × Json)} {value : α}
    (fills : Fills record ⟨depth, length⟩ (write layout (indent + 1)) record.blank members final)
    (finished : record.finish final = .ok value)
    (enough : (write layout indent (.object members)).length < length) :
    Restores (record.read ⟨depth + 1, length⟩) (write layout indent (.object members)) value := by
  obtain ⟨ending, blank, enclosed⟩ := write_object plain indent members
  obtain ⟨shorter, fewer⟩ := length_write_object plain indent members
  have names : ∀ member ∈ members, member.1.toList.length < length := fun member inside =>
    Nat.lt_trans (shorter member inside).1 enough
  refine ⟨solid_object plain indent members, fun {blanks rest} blankFront _ => ?_⟩
  have read := fills.readByName plain (indent + 1) names (Nat.lt_trans fewer enough) true blank rest
  have inside : record.readObject ⟨depth, length⟩ (layout.parts (indent + 1) true
      (members.map fun member => layout.member member.1 (write layout (indent + 1) member.2)) ++
        (ending ++ '\x7d' :: rest)) = .ok (value, rest) := by
    simp only [readObject, read, ok_bind, finished]
  rw [List.append_assoc, enclosed, Record.read, skipBlanks_append blankFront, skipBlanks_cons rfl]
  exact inside

end Record

end WalletCore
