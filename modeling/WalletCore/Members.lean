/-! # Members in order of arrival

The members of a free-form object keep the order in which their names first arrived. Storing a
value under a name that is present replaces the value and keeps its place; a new name goes to the
end. Removing a name moves the last member into the place that became free. `Members` is a list
of members with distinct names; the functions on plain lists, in the namespace `Entries`, serve
objects nested inside a value as well.
-/
namespace WalletCore

namespace Entries

variable {α : Type}

/-- The names of a list of members, in order. -/
def names (entries : List (String × α)) : List String := entries.map (·.1)

/-- Store a value under a name: in the place of the name if it is present, else at the end. -/
def put (name : String) (value : α) : List (String × α) → List (String × α)
  | [] => [(name, value)]
  | entry :: rest =>
    if entry.1 = name then (name, value) :: rest else entry :: put name value rest

/-- Remove a name; the last member takes its place. -/
def swapRemove (name : String) : List (String × α) → List (String × α)
  | [] => []
  | entry :: rest =>
    if entry.1 = name then
      match rest.getLast? with
      | none => []
      | some last => last :: rest.dropLast
    else entry :: swapRemove name rest

/-- A name of the list after `put` is the stored name or was there before. -/
theorem mem_names_put {name other : String} {value : α} {entries : List (String × α)} :
    other ∈ names (put name value entries) ↔ other = name ∨ other ∈ names entries := by
  induction entries with
  | nil => simp [put, names]
  | cons entry rest ih =>
    simp only [put]
    split
    · rename_i same
      subst same
      simp [names]
    · simp only [names, List.map_cons, List.mem_cons] at ih ⊢
      rw [ih]
      exact or_left_comm

/-- Storing a value keeps the names distinct. -/
theorem nodup_put {name : String} {value : α} {entries : List (String × α)}
    (nodup : (names entries).Nodup) : (names (put name value entries)).Nodup := by
  induction entries with
  | nil => simp [put, names]
  | cons entry rest ih =>
    obtain ⟨fresh, tail⟩ := List.nodup_cons.1 nodup
    simp only [put]
    split
    · rename_i same
      subst same
      exact nodup
    · rename_i different
      refine List.nodup_cons.2 ⟨fun member => ?_, ih tail⟩
      rcases mem_names_put.1 member with same | later
      · exact different same
      · exact fresh later

/-- Removing a member only drops and moves members. -/
theorem names_swapRemove_perm {name : String} {entries : List (String × α)} :
    (names (swapRemove name entries)).Perm ((names entries).erase name) := by
  induction entries with
  | nil => simp [swapRemove, names]
  | cons entry rest ih =>
    simp only [swapRemove]
    split
    · rename_i same
      subst same
      simp only [names, List.map_cons, List.erase_cons_head]
      cases last : rest.getLast? with
      | none => simp [List.getLast?_eq_none_iff.1 last]
      | some final =>
        obtain ⟨front, rfl⟩ := List.getLast?_eq_some_iff.1 last
        simpa using (List.perm_append_singleton final.1 (front.map (·.1))).symm
    · rename_i different
      simp only [names, List.map_cons]
      rw [List.erase_cons_tail (by simpa using different)]
      exact ih.cons _

/-- Removing a member keeps the names distinct. -/
theorem nodup_swapRemove {name : String} {entries : List (String × α)}
    (nodup : (names entries).Nodup) : (names (swapRemove name entries)).Nodup :=
  names_swapRemove_perm.nodup_iff.2 (nodup.erase _)

end Entries

/-- Members with distinct names, in order of arrival. -/
structure Members (α : Type) where
  /-- The members, in order. -/
  entries : List (String × α)
  /-- No name stands twice. -/
  nodup : (Entries.names entries).Nodup
deriving DecidableEq

namespace Members

variable {α : Type}

/-- No members. -/
def empty : Members α := ⟨[], by simp [Entries.names]⟩

/-- The names, in order. -/
def names (members : Members α) : List String := Entries.names members.entries

/-- The value under a name. -/
def get? (members : Members α) (name : String) : Option α := members.entries.lookup name

/-- Whether there are no members. -/
def isEmpty (members : Members α) : Bool := members.entries.isEmpty

/-- Store a value: in the place of the name if it is present, else at the end. -/
def put (members : Members α) (name : String) (value : α) : Members α :=
  ⟨Entries.put name value members.entries, Entries.nodup_put members.nodup⟩

/-- Remove a member; the last one takes its place. -/
def remove (members : Members α) (name : String) : Members α :=
  ⟨Entries.swapRemove name members.entries, Entries.nodup_swapRemove members.nodup⟩

/-- Store a list of members one after another, so that the last value of a name holds. -/
def putAll (members : Members α) (entries : List (String × α)) : Members α :=
  entries.foldl (fun members entry => members.put entry.1 entry.2) members

/-- The members of a list: each name in its first place with its last value. -/
def ofList (entries : List (String × α)) : Members α := empty.putAll entries

/-- Replace every value by one computed from its name and itself. -/
def mapEntries {β : Type} (members : Members α) (f : String → α → β) : Members β where
  entries := members.entries.map fun entry => (entry.1, f entry.1 entry.2)
  nodup := by
    have same : Entries.names (members.entries.map fun entry => (entry.1, f entry.1 entry.2)) =
        Entries.names members.entries := by
      simp [Entries.names]
    rw [same]
    exact members.nodup

end Members

end WalletCore
