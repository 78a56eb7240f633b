import WalletCore.Proofs.Json.Scalars
import WalletCore.Proofs.Json.WellFormed

/-! # Values that can be stored

A value can be stored within a number of brackets if no more of them are open at a time in it, no
object has a name twice, and its numbers are integers. Whatever is read meets the first two
conditions, for the brackets that may be opened are counted while it is read.
-/
namespace WalletCore.Json

/-- Whether no more than a number of brackets are open at a time in a value. -/
inductive Within : Nat → Json → Prop where
  /-- The null value has no brackets. -/
  | null (depth : Nat) : Within depth .null
  /-- A truth value has no brackets. -/
  | bool (depth : Nat) (value : Bool) : Within depth (.bool value)
  /-- A number has no brackets. -/
  | number (depth : Nat) (value : Number) : Within depth (.number value)
  /-- A string has no brackets. -/
  | string (depth : Nat) (value : String) : Within depth (.string value)
  /-- An array adds one to those of its items. -/
  | array {depth : Nat} {items : List Json} (inner : ∀ item ∈ items, Within depth item) :
    Within (depth + 1) (.array items)
  /-- An object adds one to those of its values. -/
  | object {depth : Nat} {members : List (String × Json)}
      (inner : ∀ member ∈ members, Within depth member.2) : Within (depth + 1) (.object members)

/-- Whether all numbers in a value are integers, or zero with a minus sign. -/
inductive Whole : Json → Prop where
  /-- The null value has no numbers in it. -/
  | null : Whole .null
  /-- A truth value has no numbers in it. -/
  | bool (value : Bool) : Whole (.bool value)
  /-- A number that is one of these. -/
  | number {value : Number} (whole : value.Whole) : Whole (.number value)
  /-- A string has no numbers in it. -/
  | string (value : String) : Whole (.string value)
  /-- An array of such values. -/
  | array {items : List Json} (inner : ∀ item ∈ items, Whole item) : Whole (.array items)
  /-- An object of such values. -/
  | object {members : List (String × Json)} (inner : ∀ member ∈ members, Whole member.2) :
    Whole (.object members)

/-- Whether a value is read again as it was written where a number of brackets may be opened. -/
inductive Storable : Nat → Json → Prop where
  /-- The null value. -/
  | null (depth : Nat) : Storable depth .null
  /-- A truth value. -/
  | bool (depth : Nat) (value : Bool) : Storable depth (.bool value)
  /-- An integer, or zero with a minus sign. -/
  | number (depth : Nat) {value : Number} (whole : value.Whole) : Storable depth (.number value)
  /-- A string. -/
  | string (depth : Nat) (value : String) : Storable depth (.string value)
  /-- An array of such values, with one bracket less. -/
  | array {depth : Nat} {items : List Json} (inner : ∀ item ∈ items, Storable depth item) :
    Storable (depth + 1) (.array items)
  /-- An object of distinct names and such values, with one bracket less. -/
  | object {depth : Nat} {members : List (String × Json)}
      (distinct : (Entries.names members).Nodup)
      (inner : ∀ member ∈ members, Storable depth member.2) : Storable (depth + 1) (.object members)

/-- No more brackets are open in a value that is read than may be opened. -/
theorem readValue_within (length depth : Nat) : Yields (readValue length depth) (Within depth) := by
  induction depth with
  | zero =>
    intro text value rest read
    cases readWithin_yields length none _ _ _ read with
    | null => exact .null 0
    | bool value => exact .bool 0 value
    | number value => exact .number 0 value
    | string value => exact .string 0 value
    | array within parts => contradiction
    | object within parts => contradiction
  | succ depth ih =>
    intro text value rest read
    cases readWithin_yields length _ _ _ _ read with
    | null => exact .null _
    | bool value => exact .bool _ value
    | number value => exact .number _ value
    | string value => exact .string _ value
    | array within items =>
      cases within
      exact .array (items _ ih)
    | object within values =>
      cases within
      exact .object (values _ ih)

/-- A well-formed value within the brackets and without other numbers can be stored. -/
theorem Within.storable {depth : Nat} {value : Json} (within : Within depth value)
    (wellFormed : value.WellFormed) (whole : value.Whole) : Storable depth value := by
  induction within with
  | null depth => exact .null depth
  | bool depth value => exact .bool depth value
  | string depth value => exact .string depth value
  | number depth value =>
    cases whole with
    | number whole => exact .number depth whole
  | array inner ih =>
    cases wellFormed with
    | array formed =>
      cases whole with
      | array whole =>
        exact .array fun item member => ih item member (formed item member) (whole item member)
  | object inner ih =>
    cases wellFormed with
    | object distinct formed =>
      cases whole with
      | object whole =>
        exact .object distinct fun entry member =>
          ih entry member (formed entry member) (whole entry member)

namespace Storable

variable {depth : Nat} {name : String} {value : Json} {members : List (String × Json)}

/-- What is found in an object can be stored within one bracket less. -/
theorem lookup (storable : Storable (depth + 1) (.object members))
    (found : members.lookup name = some value) : Storable depth value := by
  cases storable with
  | object distinct inner => exact inner _ (Entries.mem_of_lookup found)

/-- A member of a value can be stored within one bracket less. -/
theorem get? {found : Json} (storable : Storable (depth + 1) value)
    (held : value.get? name = some found) : Storable depth found := by
  obtain ⟨members, rfl, inside⟩ := get?_eq_some_iff.1 held
  exact storable.lookup inside

/-- A value may be stored in an object. -/
theorem put (storable : Storable (depth + 1) (.object members)) (stored : Storable depth value) :
    Storable (depth + 1) (.object (Entries.put name value members)) := by
  cases storable with
  | object distinct inner =>
    refine .object (Entries.nodup_put distinct) fun entry member => ?_
    rcases Entries.mem_of_mem_put member with rfl | former
    · exact stored
    · exact inner entry former

/-- A member may be removed from an object. -/
theorem swapRemove (storable : Storable (depth + 1) (.object members)) :
    Storable (depth + 1) (.object (Entries.swapRemove name members)) := by
  cases storable with
  | object distinct inner =>
    refine .object (Entries.nodup_swapRemove distinct) fun entry member => ?_
    exact inner entry ((Entries.mem_swapRemove distinct).1 member).1

/-- The values of an object may be replaced one by one. -/
theorem map {f : String → Json → Json} (storable : Storable (depth + 1) (.object members))
    (each : ∀ name value, Storable depth value → Storable depth (f name value)) :
    Storable (depth + 1) (.object (members.map fun entry => (entry.1, f entry.1 entry.2))) := by
  cases storable with
  | object distinct inner =>
    refine .object ?_ fun entry member => ?_
    · rw [Entries.names_map]
      exact distinct
    · obtain ⟨former, inside, rfl⟩ := List.mem_map.1 member
      exact each former.1 former.2 (inner former inside)

end Storable

end WalletCore.Json
