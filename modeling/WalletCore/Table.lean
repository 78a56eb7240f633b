/-! # Tables in key order

A table maps strings to values and lists its entries by ascending key, compared character by
character. The order is part of the type, so two tables with the same look-ups are the same
table, and a walk over the entries meets the keys in the order in which they are written out.
-/
namespace WalletCore

/-- A finite map from strings whose entries stand in ascending order of their keys. -/
structure Table (α : Type) where
  /-- The entries, by ascending key. -/
  entries : List (String × α)
  /-- Every key is below the keys after it, so no key stands twice. -/
  ascending : entries.Pairwise fun first second => first.1 < second.1
deriving DecidableEq

namespace Table

variable {α β : Type}

/-- The table without entries. -/
def empty : Table α := ⟨[], .nil⟩

/-- The value stored under a key. -/
def get? (table : Table α) (key : String) : Option α := table.entries.lookup key

/-- The keys, ascending. -/
def keys (table : Table α) : List String := table.entries.map (·.1)

/-- Whether a key has an entry. -/
def contains (table : Table α) (key : String) : Bool := (table.get? key).isSome

/-- Whether the table has no entry. -/
def isEmpty (table : Table α) : Bool := table.entries.isEmpty

/-- Number of entries. -/
def size (table : Table α) : Nat := table.entries.length

/-- Store under `key` the result of `change` on the value that was stored there, keeping the
order of an ascending list. -/
def upsertEntries (key : String) (change : Option α → α) :
    List (String × α) → List (String × α)
  | [] => [(key, change none)]
  | (found, value) :: rest =>
    if key < found then (key, change none) :: (found, value) :: rest
    else if key = found then (found, change (some value)) :: rest
    else (found, value) :: upsertEntries key change rest

/-- An entry after an update has the updated key or the key of an earlier entry. -/
theorem key_of_mem_upsertEntries {key : String} {change : Option α → α}
    {entries : List (String × α)} {entry : String × α}
    (member : entry ∈ upsertEntries key change entries) :
    entry.1 = key ∨ ∃ former ∈ entries, former.1 = entry.1 := by
  induction entries with
  | nil => simp_all [upsertEntries]
  | cons head rest ih =>
    obtain ⟨found, value⟩ := head
    simp only [upsertEntries] at member
    split at member
    · rcases List.mem_cons.1 member with rfl | later
      · exact .inl rfl
      · exact .inr ⟨entry, later, rfl⟩
    · split at member
      · rcases List.mem_cons.1 member with rfl | later
        · exact .inr ⟨(found, value), by simp, rfl⟩
        · exact .inr ⟨entry, by simp [later], rfl⟩
      · rcases List.mem_cons.1 member with rfl | later
        · exact .inr ⟨(found, value), by simp, rfl⟩
        · rcases ih later with same | ⟨former, earlier, same⟩
          · exact .inl same
          · exact .inr ⟨former, by simp [earlier], same⟩

/-- An update keeps the ascending order. -/
theorem upsertEntries_ascending {key : String} {change : Option α → α}
    {entries : List (String × α)}
    (ascending : entries.Pairwise fun first second => first.1 < second.1) :
    (upsertEntries key change entries).Pairwise fun first second => first.1 < second.1 := by
  induction entries with
  | nil => simp [upsertEntries]
  | cons head rest ih =>
    obtain ⟨found, value⟩ := head
    obtain ⟨below, tail⟩ := List.pairwise_cons.1 ascending
    simp only [upsertEntries]
    split
    · rename_i less
      refine List.pairwise_cons.2 ⟨fun entry member => ?_, ascending⟩
      rcases List.mem_cons.1 member with rfl | later
      · exact less
      · exact String.lt_trans less (below entry later)
    · split
      · exact List.pairwise_cons.2 ⟨below, tail⟩
      · rename_i notLess different
        refine List.pairwise_cons.2 ⟨fun entry member => ?_, ih tail⟩
        rcases key_of_mem_upsertEntries member with same | ⟨former, earlier, same⟩
        · rcases Std.lt_trichotomy key found with less | equal | greater
          · exact absurd less notLess
          · exact absurd equal different
          · rw [same]
            exact greater
        · rw [← same]
          exact below former earlier

/-- Store under `key` the result of `change` on the value that was stored there, if any. -/
def upsert (table : Table α) (key : String) (change : Option α → α) : Table α :=
  ⟨upsertEntries key change table.entries, upsertEntries_ascending table.ascending⟩

/-- Store a value, replacing the one that was there. -/
def insert (table : Table α) (key : String) (value : α) : Table α :=
  table.upsert key fun _ => value

/-- The table of a list of entries; of two entries with one key the later one holds. -/
def ofList (entries : List (String × α)) : Table α :=
  entries.foldl (fun table entry => table.insert entry.1 entry.2) empty

/-- Replace every value by one computed from its key and itself. -/
def mapEntries (table : Table α) (f : String → α → β) : Table β where
  entries := table.entries.map fun entry => (entry.1, f entry.1 entry.2)
  ascending := List.pairwise_map.2 table.ascending

/-- Keep the entries whose key passes a test. -/
def filterKeys (table : Table α) (keep : String → Bool) : Table α where
  entries := table.entries.filter fun entry => keep entry.1
  ascending := table.ascending.filter _

end Table

end WalletCore
