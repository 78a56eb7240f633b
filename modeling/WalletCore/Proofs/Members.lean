import WalletCore.Members

/-! # Look-ups in members

A look-up is all that a reader sees of a list of members. These theorems say what each change of a
list does to the look-ups and to the members themselves, so no later proof opens a change again.
Removal moves a member, and is a removal for every look-up only where no name stands twice.
-/
namespace WalletCore

namespace Entries

variable {α : Type}

/-- A look-up takes the first member of its name. -/
theorem lookup_cons (name found : String) (stored : α) (entries : List (String × α)) :
    ((found, stored) :: entries).lookup name =
      if name = found then some stored else entries.lookup name := by
  by_cases same : name = found
  · simp [same]
  · rw [List.lookup_cons, beq_false_of_ne same, if_neg same]

/-- Where no name stands twice, a member is found under its name. -/
theorem lookup_eq_some_iff {name : String} {value : α} {entries : List (String × α)}
    (nodup : (names entries).Nodup) :
    entries.lookup name = some value ↔ (name, value) ∈ entries := by
  induction entries with
  | nil => simp
  | cons entry rest ih =>
    obtain ⟨found, stored⟩ := entry
    obtain ⟨fresh, tail⟩ := List.nodup_cons.1 nodup
    by_cases same : name = found
    · subst same
      rw [List.lookup_cons_self]
      constructor
      · intro held
        rw [Option.some.inj held]
        exact List.mem_cons_self
      · intro member
        rcases List.mem_cons.1 member with head | later
        · rw [(Prod.mk.inj head).2]
        · exact absurd (List.mem_map_of_mem later) fresh
    · rw [lookup_cons, if_neg same, ih tail]
      simp [same]

/-- A member that is found is a member, whatever else there is. -/
theorem mem_of_lookup {name : String} {value : α} {entries : List (String × α)}
    (found : entries.lookup name = some value) : (name, value) ∈ entries := by
  obtain ⟨before, after, rfl, _⟩ := List.lookup_eq_some_iff.1 found
  simp

/-- Replacing every value keeps the names. -/
theorem names_map {β : Type} (f : String → α → β) (entries : List (String × α)) :
    names (entries.map fun entry => (entry.1, f entry.1 entry.2)) = names entries := by
  simp [names]

/-- A look-up where every value was replaced. -/
theorem lookup_map {β : Type} (f : String → α → β) (entries : List (String × α)) (name : String) :
    (entries.map fun entry => (entry.1, f entry.1 entry.2)).lookup name =
      (entries.lookup name).map (f name) := by
  induction entries with
  | nil => rfl
  | cons entry rest ih =>
    rw [List.map_cons, lookup_cons, lookup_cons, ih]
    by_cases same : name = entry.1
    · rw [if_pos same, if_pos same, same]
      rfl
    · rw [if_neg same, if_neg same]

/-- Storing a value changes the look-up of its name and no other. -/
theorem lookup_put (name other : String) (value : α) (entries : List (String × α)) :
    (put name value entries).lookup other =
      if other = name then some value else entries.lookup other := by
  induction entries with
  | nil => rw [put, lookup_cons]
  | cons entry rest ih =>
    obtain ⟨found, stored⟩ := entry
    by_cases here : found = name
    · subst here
      by_cases same : other = found <;> simp [put, lookup_cons, same]
    · simp only [put, here, ↓reduceIte, lookup_cons, ih]
      by_cases same : other = found
      · rw [if_pos same, if_neg (fun again => here (same.symm.trans again)), if_pos same]
      · simp [same]

/-- A new name goes to the end. -/
theorem put_of_fresh {name : String} {value : α} {entries : List (String × α)}
    (fresh : name ∉ names entries) : put name value entries = entries ++ [(name, value)] := by
  induction entries with
  | nil => rfl
  | cons entry rest ih =>
    have different : entry.1 ≠ name := fun same => fresh (by rw [← same]; exact List.mem_cons_self)
    have absent : name ∉ names rest := fun later => fresh (List.mem_cons_of_mem _ later)
    rw [put, if_neg different, ih absent, List.cons_append]

/-- Storing a value keeps the names in order; a new name goes to the end. -/
theorem names_put (name : String) (value : α) (entries : List (String × α)) :
    names (put name value entries) =
      if name ∈ names entries then names entries else names entries ++ [name] := by
  induction entries with
  | nil => rfl
  | cons entry rest ih =>
    by_cases here : entry.1 = name
    · subst here
      have named : entry.1 ∈ names (entry :: rest) := List.mem_cons_self
      rw [put, if_pos rfl, if_pos named]
      rfl
    · have member : name ∈ names (entry :: rest) ↔ name ∈ names rest := by
        rw [names, List.map_cons, List.mem_cons]
        exact or_iff_right fun same => here same.symm
      rw [put, if_neg here]
      change entry.1 :: names (put name value rest) = _
      rw [ih]
      by_cases later : name ∈ names rest
      · rw [if_pos later, if_pos (member.2 later)]
        rfl
      · rw [if_neg later, if_neg (mt member.1 later)]
        rfl

/-- A name that is found is one of the names. -/
theorem mem_names_of_lookup {name : String} {value : α} {entries : List (String × α)}
    (found : entries.lookup name = some value) : name ∈ names entries :=
  List.mem_map_of_mem (mem_of_lookup found)

/-- A member after a value was stored is the stored one or was there before. -/
theorem mem_of_mem_put {name : String} {value : α} {entries : List (String × α)}
    {entry : String × α} (member : entry ∈ put name value entries) :
    entry = (name, value) ∨ entry ∈ entries := by
  induction entries with
  | nil => exact .inl (List.mem_singleton.1 member)
  | cons head rest ih =>
    simp only [put] at member
    split at member
    · rcases List.mem_cons.1 member with stored | later
      · exact .inl stored
      · exact .inr (List.mem_cons_of_mem _ later)
    · rcases List.mem_cons.1 member with first | later
      · exact .inr (first ▸ List.mem_cons_self)
      · exact (ih later).imp_right (List.mem_cons_of_mem _)

/-- Storing what is there already changes nothing. -/
theorem put_of_lookup {name : String} {value : α} {entries : List (String × α)}
    (found : entries.lookup name = some value) : put name value entries = entries := by
  induction entries with
  | nil => contradiction
  | cons entry rest ih =>
    rw [lookup_cons] at found
    by_cases here : entry.1 = name
    · rw [if_pos here.symm] at found
      cases found
      rw [put, if_pos here, ← here]
    · rw [if_neg fun same => here same.symm] at found
      rw [put, if_neg here, ih found]

/-- Storing a value leaves the members of other names where they are. -/
theorem filter_put {keep : String → Bool} {name : String} (value : α)
    (apart : keep name = false) (entries : List (String × α)) :
    ((put name value entries).filter fun entry => keep entry.1) =
      entries.filter fun entry => keep entry.1 := by
  induction entries with
  | nil => simp [put, apart]
  | cons entry rest ih =>
    by_cases here : entry.1 = name
    · simp [put, here, apart]
    · rw [put, if_neg here, List.filter_cons, List.filter_cons, ih]

/-- A removal moves a member at most, and drops none of another name. -/
theorem filter_swapRemove_perm {keep : String → Bool} {name : String}
    (apart : keep name = false) (entries : List (String × α)) :
    ((swapRemove name entries).filter fun entry => keep entry.1).Perm
      (entries.filter fun entry => keep entry.1) := by
  induction entries with
  | nil => exact .refl _
  | cons entry rest ih =>
    by_cases here : entry.1 = name
    · have dropped : ((entry :: rest).filter fun entry => keep entry.1) =
          rest.filter fun entry => keep entry.1 :=
        List.filter_cons_of_neg (by simp [here, apart])
      rw [dropped]
      refine List.Perm.filter _ ?_
      simp only [swapRemove, here, ↓reduceIte]
      cases last : rest.getLast? with
      | none => simp [List.getLast?_eq_none_iff.1 last]
      | some final =>
        obtain ⟨front, rfl⟩ := List.getLast?_eq_some_iff.1 last
        simpa using (List.perm_append_singleton final front).symm
    · rw [swapRemove, if_neg here, List.filter_cons, List.filter_cons]
      split
      · exact ih.cons _
      · exact ih

/-- What remains after a removal are the members of other names. -/
theorem mem_swapRemove {name : String} {entry : String × α} {entries : List (String × α)}
    (nodup : (names entries).Nodup) :
    entry ∈ swapRemove name entries ↔ entry ∈ entries ∧ entry.1 ≠ name := by
  induction entries with
  | nil => simp [swapRemove]
  | cons head rest ih =>
    obtain ⟨fresh, tail⟩ := List.nodup_cons.1 nodup
    by_cases here : head.1 = name
    · have others : ∀ later ∈ rest, later.1 ≠ name := by
        intro later member same
        exact fresh (List.mem_map.2 ⟨later, member, same.trans here.symm⟩)
      have moved : entry ∈ swapRemove name (head :: rest) ↔ entry ∈ rest := by
        simp only [swapRemove, here, ↓reduceIte]
        cases last : rest.getLast? with
        | none => simp [List.getLast?_eq_none_iff.1 last]
        | some final =>
          obtain ⟨front, rfl⟩ := List.getLast?_eq_some_iff.1 last
          simp [or_comm]
      rw [moved]
      constructor
      · intro member
        exact ⟨List.mem_cons_of_mem _ member, others entry member⟩
      · rintro ⟨member, different⟩
        rcases List.mem_cons.1 member with rfl | later
        · exact absurd here different
        · exact later
    · simp only [swapRemove, here, ↓reduceIte, List.mem_cons, ih tail]
      constructor
      · rintro (rfl | ⟨member, different⟩)
        · exact ⟨.inl rfl, here⟩
        · exact ⟨.inr member, different⟩
      · rintro ⟨rfl | member, different⟩
        · exact .inl rfl
        · exact .inr ⟨member, different⟩

/-- Where no name stands twice, a removal changes the look-up of its name and no other. -/
theorem lookup_swapRemove (name other : String) {entries : List (String × α)}
    (nodup : (names entries).Nodup) :
    (swapRemove name entries).lookup other =
      if other = name then none else entries.lookup other := by
  apply Option.ext
  intro value
  rw [lookup_eq_some_iff (nodup_swapRemove nodup), mem_swapRemove nodup]
  by_cases same : other = name
  · simp [same]
  · simp [same, lookup_eq_some_iff nodup]

/-- A name is found if it is one of the names. -/
theorem lookup_eq_none_iff {name : String} {entries : List (String × α)} :
    entries.lookup name = none ↔ name ∉ names entries := by
  induction entries with
  | nil => simp [names]
  | cons entry rest ih =>
    rw [lookup_cons, names, List.map_cons, List.mem_cons, not_or]
    by_cases here : name = entry.1
    · simp [here]
    · rw [if_neg here, ih]
      exact (and_iff_right here).symm

/-- Where no name stands twice, members are known by their names in order and their look-ups. -/
theorem ext_lookup {left right : List (String × α)} (nodup : (names left).Nodup)
    (order : names left = names right)
    (same : ∀ name, left.lookup name = right.lookup name) : left = right := by
  induction left generalizing right with
  | nil =>
    cases right with
    | nil => rfl
    | cons entry rest => contradiction
  | cons entry rest ih =>
    cases right with
    | nil => contradiction
    | cons other others =>
      obtain ⟨name, value⟩ := entry
      obtain ⟨again, stored⟩ := other
      obtain ⟨rfl, tails⟩ := List.cons.inj order
      obtain ⟨fresh, tail⟩ := List.nodup_cons.1 nodup
      have first := same name
      rw [List.lookup_cons_self, List.lookup_cons_self] at first
      have behind : ∀ later, rest.lookup later = others.lookup later := by
        intro later
        by_cases here : later = name
        · have absent : name ∉ names others := by
            rw [← show names rest = names others from tails]
            exact fresh
          rw [here, lookup_eq_none_iff.2 fresh, lookup_eq_none_iff.2 absent]
        · have whole := same later
          rw [lookup_cons, lookup_cons, if_neg here, if_neg here] at whole
          exact whole
      rw [Option.some.inj first, ih tail tails behind]

/-- The names of what is put in places are the first of those that name the places. -/
theorem names_zip_sublist (keys : List String) (values : List α) :
    (names (keys.zip values)).Sublist keys := by
  induction keys generalizing values with
  | nil => exact .slnil
  | cons first rest ih =>
    cases values with
    | nil => exact List.nil_sublist _
    | cons value values => exact (ih values).cons_cons first

end Entries

namespace Members

variable {α : Type}

/-- Storing a value changes the look-up of its name and no other. -/
theorem get?_put (members : Members α) (name other : String) (value : α) :
    (members.put name value).get? other = if other = name then some value else members.get? other :=
  Entries.lookup_put name other value members.entries

/-- Storing a value under a name that is there keeps the names. -/
theorem names_put {members : Members α} {name : String} {former : α} (value : α)
    (found : members.get? name = some former) : (members.put name value).names = members.names := by
  have named : name ∈ Entries.names members.entries := Entries.mem_names_of_lookup found
  exact (Entries.names_put name value members.entries).trans (if_pos named)

/-- Removing a member changes the look-up of its name and no other. -/
theorem get?_remove (members : Members α) (name other : String) :
    (members.remove name).get? other = if other = name then none else members.get? other :=
  Entries.lookup_swapRemove name other members.nodup

/-- What holds of all values and of one that is stored holds of all values then. -/
theorem forall_get?_put {property : α → Prop} {members : Members α} {value : α}
    (former : ∀ other found, members.get? other = some found → property found)
    (new : property value) (name : String) :
    ∀ other found, (members.put name value).get? other = some found → property found := by
  intro other found stored
  rw [get?_put] at stored
  by_cases same : other = name
  · rw [if_pos same] at stored
    exact Option.some.inj stored ▸ new
  · rw [if_neg same] at stored
    exact former other found stored

/-- What holds of all values holds of those that are left after a removal. -/
theorem forall_get?_remove {property : α → Prop} {members : Members α}
    (former : ∀ other found, members.get? other = some found → property found) (name : String) :
    ∀ other found, (members.remove name).get? other = some found → property found := by
  intro other found left
  rw [get?_remove] at left
  by_cases same : other = name
  · rw [if_pos same] at left
    contradiction
  · rw [if_neg same] at left
    exact former other found left

/-- Members with the same list are the same. -/
theorem ext_entries {left right : Members α} (same : left.entries = right.entries) :
    left = right := by
  cases left
  cases right
  simpa using same

/-- Storing what is there already changes nothing. -/
theorem put_of_get? {members : Members α} {name : String} {value : α}
    (found : members.get? name = some value) : members.put name value = members :=
  ext_entries (Entries.put_of_lookup found)

/-- Members of new and distinct names are stored one behind the other. -/
theorem entries_putAll {members : Members α} {entries : List (String × α)}
    (distinct : (Entries.names (members.entries ++ entries)).Nodup) :
    (members.putAll entries).entries = members.entries ++ entries := by
  induction entries generalizing members with
  | nil => exact (List.append_nil _).symm
  | cons entry rest ih =>
    have fresh : entry.1 ∉ Entries.names members.entries := by
      intro member
      rw [Entries.names, List.map_append] at distinct
      obtain ⟨-, -, apart⟩ := List.nodup_append.1 distinct
      exact apart _ member _ List.mem_cons_self rfl
    have stored : (members.put entry.1 entry.2).entries = members.entries ++ [entry] :=
      Entries.put_of_fresh fresh
    have behind : (members.put entry.1 entry.2).entries ++ rest =
        members.entries ++ entry :: rest := by
      rw [stored, List.append_assoc]
      rfl
    rw [← behind] at distinct ⊢
    exact ih distinct

/-- Members of distinct names keep their list. -/
theorem entries_ofList {entries : List (String × α)} (distinct : (Entries.names entries).Nodup) :
    (ofList entries).entries = entries :=
  entries_putAll distinct

/-- A member of what was stored was there before or is one of those that were stored. -/
theorem mem_of_mem_putAll {members : Members α} {entries : List (String × α)}
    {entry : String × α} (member : entry ∈ (members.putAll entries).entries) :
    entry ∈ members.entries ∨ entry ∈ entries := by
  induction entries generalizing members with
  | nil => exact .inl member
  | cons head rest ih =>
    rcases ih member with stored | later
    · rcases Entries.mem_of_mem_put stored with same | former
      · exact .inr (same ▸ List.mem_cons_self)
      · exact .inl former
    · exact .inr (List.mem_cons_of_mem _ later)

/-- A member of what was made of a list is in the list. -/
theorem mem_of_mem_ofList {entries : List (String × α)} {entry : String × α}
    (member : entry ∈ (ofList entries).entries) : entry ∈ entries := by
  rcases mem_of_mem_putAll member with former | listed
  · exact absurd former List.not_mem_nil
  · exact listed

/-- Members with the same names in the same order and the same look-ups are the same. -/
theorem ext_get? {left right : Members α} (order : left.names = right.names)
    (same : ∀ name, left.get? name = right.get? name) : left = right :=
  ext_entries (Entries.ext_lookup left.nodup order same)

/-- Of a name that is stored anew the new value is found, and of any other name the former one. -/
theorem get?_putAll {members : Members α} {entries : List (String × α)}
    (distinct : (Entries.names entries).Nodup) (name : String) :
    (members.putAll entries).get? name = (entries.lookup name).or (members.get? name) := by
  induction entries generalizing members with
  | nil => rfl
  | cons entry rest ih =>
    obtain ⟨fresh, tail⟩ := List.nodup_cons.1 distinct
    have stored : members.putAll (entry :: rest) =
        (members.put entry.1 entry.2).putAll rest := rfl
    rw [stored, ih tail, get?_put, Entries.lookup_cons]
    by_cases here : name = entry.1
    · rw [if_pos here, if_pos here, here, Entries.lookup_eq_none_iff.2 fresh]
      rfl
    · rw [if_neg here, if_neg here]

/-- Names that are stored anew stand behind the former ones, in the order in which they came. -/
theorem names_putAll {members : Members α} {entries : List (String × α)}
    (distinct : (Entries.names entries).Nodup) :
    (members.putAll entries).names =
      members.names ++ (Entries.names entries).filter fun name => name ∉ members.names := by
  induction entries generalizing members with
  | nil => exact (List.append_nil _).symm
  | cons entry rest ih =>
    obtain ⟨fresh, tail⟩ := List.nodup_cons.1 distinct
    have stored : members.putAll (entry :: rest) =
        (members.put entry.1 entry.2).putAll rest := rfl
    have put : (members.put entry.1 entry.2).names =
        if entry.1 ∈ members.names then members.names else members.names ++ [entry.1] :=
      Entries.names_put entry.1 entry.2 members.entries
    rw [stored, ih tail, put]
    by_cases known : entry.1 ∈ members.names
    · rw [if_pos known]
      simp [Entries.names, known]
    · rw [if_neg known]
      have others : (Entries.names rest).filter (fun name => name ∉ members.names ++ [entry.1]) =
          (Entries.names rest).filter fun name => name ∉ members.names := by
        refine List.filter_congr fun name member => ?_
        have different : name ≠ entry.1 := by
          intro same
          rw [same] at member
          exact fresh member
        simp [different]
      rw [others]
      simp [Entries.names, known]

/-- The names of two members together: those of the first, and behind them the new ones. -/
theorem names_putAll_entries (first second : Members α) :
    (first.putAll second.entries).names =
      first.names ++ second.names.filter fun name => name ∉ first.names :=
  names_putAll second.nodup

/-- Of two members together the second value of a name is found where there are two. -/
theorem get?_putAll_entries (first second : Members α) (name : String) :
    (first.putAll second.entries).get? name = (second.get? name).or (first.get? name) :=
  get?_putAll second.nodup name

/-- Storing two lists one after another is storing the one that results from both. -/
theorem putAll_putAll (first second third : Members α) :
    (first.putAll second.entries).putAll third.entries =
      first.putAll (second.putAll third.entries).entries := by
  apply ext_get?
  · simp only [names_putAll_entries, List.filter_append, List.filter_filter, List.append_assoc]
    congr 2
    refine List.filter_congr fun name _ => ?_
    by_cases old : name ∈ first.names <;> simp [old]
  · intro name
    simp only [get?_putAll_entries, Option.or_assoc]

/-- Storing what is there already changes nothing. -/
theorem putAll_entries (members : Members α) : members.putAll members.entries = members := by
  apply ext_get?
  · rw [names_putAll_entries]
    simp
  · intro name
    rw [get?_putAll_entries, Option.or_self]

/-- Members that are stored where there are none are all that is there. -/
theorem empty_putAll (members : Members α) : empty.putAll members.entries = members :=
  ext_entries (entries_ofList members.nodup)

/-- Of a list that is stored the last value of a name is found, and where there is none the value
that was there before. -/
theorem get?_putAll_reverse (members : Members α) (entries : List (String × α)) (name : String) :
    (members.putAll entries).get? name = (entries.reverse.lookup name).or (members.get? name) := by
  induction entries generalizing members with
  | nil => rfl
  | cons entry rest ih =>
    have stored : members.putAll (entry :: rest) =
        (members.put entry.1 entry.2).putAll rest := rfl
    rw [stored, ih, get?_put, List.reverse_cons, List.lookup_append, Entries.lookup_cons,
      Option.or_assoc]
    by_cases here : name = entry.1
    · rw [if_pos here, if_pos here, Option.some_or]
    · rw [if_neg here, if_neg here]
      rfl

/-- Of the members of a list the last value of a name counts. -/
theorem get?_ofList (entries : List (String × α)) (name : String) :
    (ofList entries).get? name = entries.reverse.lookup name :=
  (get?_putAll_reverse empty entries name).trans (Option.or_none)

end Members

end WalletCore
