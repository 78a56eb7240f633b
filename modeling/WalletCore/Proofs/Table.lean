import WalletCore.Proofs.Members
import WalletCore.Table

/-! # Look-ups in tables

A table is known by its look-ups (`ext_get?`). Each operation on tables has one theorem that gives
the look-ups after it, and the entries are the look-ups that succeed (`get?_eq_some_iff`).
-/
namespace WalletCore.Table

variable {α β : Type}

/-- No key stands twice. -/
theorem names_nodup (table : Table α) : (Entries.names table.entries).Nodup := by
  refine List.pairwise_map.2 (table.ascending.imp fun {first second} below same => ?_)
  rw [same] at below
  exact String.lt_irrefl _ below

/-- The entries are what is found. -/
theorem get?_eq_some_iff {table : Table α} {key : String} {value : α} :
    table.get? key = some value ↔ (key, value) ∈ table.entries :=
  Entries.lookup_eq_some_iff table.names_nodup

/-- A key is one of those that have an entry. -/
theorem mem_keys_iff {table : Table α} {key : String} :
    key ∈ table.keys ↔ ∃ value, table.get? key = some value := by
  simp only [keys, List.mem_map, get?_eq_some_iff]
  constructor
  · rintro ⟨⟨found, value⟩, member, rfl⟩
    exact ⟨value, member⟩
  · rintro ⟨value, member⟩
    exact ⟨(key, value), member, rfl⟩

/-- A table contains its keys. -/
theorem contains_iff_mem_keys {table : Table α} {key : String} :
    table.contains key = true ↔ key ∈ table.keys := by
  rw [contains, Option.isSome_iff_exists, mem_keys_iff]

/-- A key that no entry has is not found. -/
theorem get?_eq_none_iff {table : Table α} {key : String} :
    table.get? key = none ↔ key ∉ table.keys :=
  Entries.lookup_eq_none_iff

/-- Tables with the same keys have them in the same order. -/
theorem keys_eq_iff {left : Table α} {right : Table β} :
    left.keys = right.keys ↔ ∀ key, key ∈ left.keys ↔ key ∈ right.keys := by
  constructor
  · intro same key
    rw [same]
  · intro same
    have ascending : ∀ {γ : Type} (table : Table γ), table.keys.Pairwise (· < ·) := fun table =>
      List.pairwise_map.2 table.ascending
    have perm : left.keys.Perm right.keys :=
      (List.perm_ext_iff_of_nodup left.names_nodup right.names_nodup).2 same
    refine perm.eq_of_pairwise ?_ (ascending left) (ascending right)
    intro first second _ _ below above
    exact absurd (String.lt_trans below above) (String.lt_irrefl _)

/-- Tables with the same look-ups are the same. -/
theorem ext_get? {left right : Table α} (same : ∀ key, left.get? key = right.get? key) :
    left = right := by
  have distinct : ∀ table : Table α, table.entries.Nodup := fun table =>
    List.Pairwise.of_map _ (fun _ _ different whole => different (congrArg _ whole))
      table.names_nodup
  have members : ∀ entry, entry ∈ left.entries ↔ entry ∈ right.entries := by
    rintro ⟨key, value⟩
    rw [← get?_eq_some_iff, ← get?_eq_some_iff, same]
  have perm := (List.perm_ext_iff_of_nodup (distinct left) (distinct right)).2 members
  have entries : left.entries = right.entries := by
    refine perm.eq_of_pairwise (fun first second _ _ below above => ?_) left.ascending
      right.ascending
    exact absurd (String.lt_trans below above) (String.lt_irrefl _)
  cases left
  cases right
  simpa using entries

/-- An empty table has no entry. -/
theorem get?_empty (key : String) : (empty : Table α).get? key = none := rfl

/-- A key below the first of ascending entries is not among them. -/
theorem lookup_eq_none_of_lt {key : String} {entries : List (String × α)}
    (below : ∀ entry ∈ entries, key < entry.1) : entries.lookup key = none := by
  refine Entries.lookup_eq_none_iff.2 fun member => ?_
  obtain ⟨entry, listed, same⟩ := List.mem_map.1 member
  have less := below entry listed
  rw [same] at less
  exact String.lt_irrefl _ less

/-- An update changes the look-up of its key and no other. -/
theorem get?_upsert (table : Table α) (key other : String) (change : Option α → α) :
    (table.upsert key change).get? other =
      if other = key then some (change (table.get? key)) else table.get? other := by
  obtain ⟨entries, ascending⟩ := table
  simp only [get?, upsert]
  induction entries with
  | nil => simp only [upsertEntries, Entries.lookup_cons, List.lookup_nil]
  | cons entry rest ih =>
    obtain ⟨found, value⟩ := entry
    obtain ⟨below, tail⟩ := List.pairwise_cons.1 ascending
    simp only [upsertEntries]
    split
    · rename_i less
      have absent : ((found, value) :: rest).lookup key = none := by
        refine lookup_eq_none_of_lt (List.forall_mem_cons.2 ⟨less, fun later member => ?_⟩)
        exact String.lt_trans less (below later member)
      rw [absent, Entries.lookup_cons]
    · split
      · rename_i same
        subst same
        rw [Entries.lookup_cons, Entries.lookup_cons, Entries.lookup_cons, if_pos rfl]
        split <;> rfl
      · rename_i different
        rw [Entries.lookup_cons, ih tail, Entries.lookup_cons, Entries.lookup_cons,
          if_neg different]
        by_cases here : other = found
        · rw [if_pos here, if_pos here, if_neg fun same => different (same.symm.trans here)]
        · rw [if_neg here, if_neg here]

/-- Storing a value changes the look-up of its key and no other. -/
theorem get?_insert (table : Table α) (key other : String) (value : α) :
    (table.insert key value).get? other = if other = key then some value else table.get? other :=
  get?_upsert table key other fun _ => value

/-- The keys after a value was stored are its key and the former ones. -/
theorem mem_keys_insert {table : Table α} {key other : String} {value : α} :
    other ∈ (table.insert key value).keys ↔ other = key ∨ other ∈ table.keys := by
  rw [mem_keys_iff, mem_keys_iff]
  simp only [get?_insert]
  by_cases same : other = key
  · simp [same]
  · simp [same]

/-- Replacing every value replaces what is found. -/
theorem get?_mapEntries (table : Table α) (f : String → α → β) (key : String) :
    (table.mapEntries f).get? key = (table.get? key).map (f key) :=
  Entries.lookup_map f table.entries key

/-- Only keys that pass the test are still found. -/
theorem get?_filterKeys (table : Table α) (keep : String → Bool) (key : String) :
    (table.filterKeys keep).get? key = if keep key then table.get? key else none := by
  apply Option.ext
  intro value
  rw [get?_eq_some_iff, filterKeys, List.mem_filter]
  split
  · rename_i kept
    rw [get?_eq_some_iff]
    exact and_iff_left kept
  · rename_i dropped
    simp [dropped]

/-- Updates under distinct keys change the look-ups of these keys, each by its own update. -/
theorem get?_foldl_upsert {entries : List (String × β)}
    (distinct : (Entries.names entries).Nodup) (change : β → Option α → α) (table : Table α)
    (key : String) :
    (entries.foldl (fun table entry => table.upsert entry.1 (change entry.2)) table).get? key =
      (entries.lookup key).elim (table.get? key) fun value =>
        some (change value (table.get? key)) := by
  induction entries generalizing table with
  | nil => rfl
  | cons entry rest ih =>
    obtain ⟨fresh, tail⟩ := List.nodup_cons.1 distinct
    rw [List.foldl_cons, ih tail, get?_upsert, Entries.lookup_cons]
    by_cases same : key = entry.1
    · subst same
      rw [Entries.lookup_eq_none_iff.2 fresh, if_pos rfl, if_pos rfl]
      rfl
    · rw [if_neg same, if_neg same]

/-- A table is the table of its entries. -/
theorem ofList_entries (table : Table α) : ofList table.entries = table := by
  apply ext_get?
  intro key
  have found := get?_foldl_upsert table.names_nodup (fun value _ => value) empty key
  refine found.trans ?_
  change (table.get? key).elim none some = table.get? key
  cases table.get? key <;> rfl

end WalletCore.Table
