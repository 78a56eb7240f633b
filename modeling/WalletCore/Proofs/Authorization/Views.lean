import WalletCore.Authorization.Basic

/-! # What the views of an authorization show

The Ethereum accounts are the addresses under scopes of Ethereum, where one address stands for all
that differ from it in the case of letters. The Ethereum chains are those that have a scope. Nothing
is shown that is not listed, and nothing that is listed is hidden.
-/
namespace WalletCore

/-- What is first in its group is a value. -/
theorem mem_of_mem_firstsBy {α κ : Type} [DecidableEq κ] {key : α → κ} {values : List α}
    {value : α} (member : value ∈ firstsBy key values) : value ∈ values := by
  induction values with
  | nil => exact member
  | cons head rest ih =>
    rcases List.mem_cons.1 member with rfl | later
    · exact List.mem_cons_self
    · exact List.mem_cons_of_mem _ (ih (List.mem_filter.1 later).1)

/-- Every value has the key of the first of its group. -/
theorem exists_firstsBy {α κ : Type} [DecidableEq κ] (key : α → κ) {values : List α} {value : α}
    (member : value ∈ values) : ∃ first ∈ firstsBy key values, key first = key value := by
  induction values with
  | nil => exact absurd member List.not_mem_nil
  | cons head rest ih =>
    by_cases same : key value = key head
    · exact ⟨head, List.mem_cons_self, same.symm⟩
    · rcases List.mem_cons.1 member with rfl | later
      · exact absurd rfl same
      · obtain ⟨first, found, group⟩ := ih later
        refine ⟨first, List.mem_cons_of_mem _ (List.mem_filter.2 ⟨found, ?_⟩), group⟩
        rw [group]
        exact decide_eq_true same

/-- The keys of the firsts are those of the values. -/
theorem mem_map_firstsBy {α κ : Type} [DecidableEq κ] {key : α → κ} {values : List α} {group : κ} :
    group ∈ (firstsBy key values).map key ↔ group ∈ values.map key := by
  simp only [List.mem_map]
  constructor
  · rintro ⟨first, found, rfl⟩
    exact ⟨first, mem_of_mem_firstsBy found, rfl⟩
  · rintro ⟨value, member, rfl⟩
    exact exists_firstsBy key member

/-- Each group has one first. -/
theorem nodup_map_firstsBy {α κ : Type} [DecidableEq κ] (key : α → κ) (values : List α) :
    ((firstsBy key values).map key).Nodup := by
  induction values with
  | nil => exact .nil
  | cons head rest ih =>
    rw [firstsBy, List.map_cons, List.nodup_cons]
    constructor
    · intro again
      obtain ⟨other, kept, same⟩ := List.mem_map.1 again
      have different := (List.mem_filter.1 kept).2
      rw [same] at different
      simp at different
    · exact ih.sublist (List.filter_sublist.map key)

/-- Values of different groups are all of them firsts. -/
theorem firstsBy_of_nodup {α κ : Type} [DecidableEq κ] {key : α → κ} {values : List α}
    (distinct : (values.map key).Nodup) : firstsBy key values = values := by
  induction values with
  | nil => rfl
  | cons head rest ih =>
    obtain ⟨fresh, tail⟩ := List.nodup_cons.1 distinct
    have others : ∀ other ∈ rest, decide (key other ≠ key head) = true := by
      intro other member
      refine decide_eq_true fun same => fresh ?_
      rw [← same]
      exact List.mem_map_of_mem member
    rw [firstsBy, ih tail, List.filter_eq_self.2 others]

/-- The firsts of two lists in a row: behind those of the first list stand those of the groups that
are new. -/
theorem firstsBy_append {α κ : Type} [DecidableEq κ] (key : α → κ) (values more : List α) :
    firstsBy key (values ++ more) = firstsBy key values ++
      (firstsBy key more).filter fun other => key other ∉ values.map key := by
  induction values with
  | nil =>
    have new : ∀ other ∈ firstsBy key more, decide (key other ∉ ([] : List α).map key) = true := by
      simp
    exact (List.filter_eq_self.2 new).symm
  | cons head rest ih =>
    rw [List.cons_append, firstsBy, ih, List.filter_append, List.filter_filter, firstsBy,
      List.cons_append]
    congr 2
    refine List.filter_congr fun other _ => ?_
    simp [not_or]

/-- A list whose groups all had their firsts before adds none. -/
theorem firstsBy_append_of_subset {α κ : Type} [DecidableEq κ] {key : α → κ}
    {values more : List α} (known : ∀ value ∈ more, key value ∈ values.map key) :
    firstsBy key (values ++ more) = firstsBy key values := by
  have nothing : (firstsBy key more).filter (fun other => key other ∉ values.map key) = [] := by
    refine List.filter_eq_nil_iff.2 fun other member => ?_
    have group := known other (mem_of_mem_firstsBy member)
    simpa using group
  rw [firstsBy_append, nothing, List.append_nil]

/-- The firsts of the groups that pass a test are those of the values of these groups. -/
theorem firstsBy_filter {α κ : Type} [DecidableEq κ] (key : α → κ) (keep : κ → Bool)
    (values : List α) :
    (firstsBy key values).filter (fun value => keep (key value)) =
      firstsBy key (values.filter fun value => keep (key value)) := by
  induction values with
  | nil => rfl
  | cons head rest ih =>
    by_cases kept : keep (key head) = true
    · rw [firstsBy, List.filter_cons_of_pos (p := fun value => keep (key value)) kept,
        List.filter_cons_of_pos (p := fun value => keep (key value)) kept, firstsBy, ← ih,
        List.filter_filter, List.filter_filter]
      simp only [Bool.and_comm]
    · rw [firstsBy, List.filter_cons_of_neg (p := fun value => keep (key value)) kept,
        List.filter_cons_of_neg (p := fun value => keep (key value)) kept, ← ih,
        List.filter_filter]
      -- The group of the head is not kept, so the filter that takes it out takes nothing out.
      refine List.filter_congr fun other _ => ?_
      by_cases same : key other = key head
      · simp [same, kept]
      · simp [same]

/-- To keep the first of each group is to erase what repeats the key of an earlier value. -/
theorem firstsBy_eq_eraseDupsBy {α κ : Type} [DecidableEq κ] (key : α → κ) (values : List α) :
    firstsBy key values = values.eraseDupsBy fun other first => key other == key first := by
  -- The recursion of the erasure is on the values that are left behind the head.
  match values with
  | [] => rfl
  | head :: rest =>
    have erased : (rest.filter fun other => (key other == key head) = false) =
        rest.filter fun other => key other ≠ key head :=
      List.filter_congr fun other _ => by simp
    rw [firstsBy, firstsBy_filter key fun group => group ≠ key head, List.eraseDupsBy_cons, erased,
      firstsBy_eq_eraseDupsBy key (rest.filter fun other => key other ≠ key head)]
termination_by values.length
decreasing_by exact Nat.lt_succ_of_le (List.length_filter_le _ _)

namespace Authorization

/-- A chain that was put in its place stands among the others. -/
theorem mem_insertChain {chain other : Chain.Id} {chains : List Chain.Id} :
    other ∈ insertChain chain chains ↔ other = chain ∨ other ∈ chains := by
  induction chains with
  | nil => simp [insertChain]
  | cons found rest ih =>
    rw [insertChain]
    split
    · rw [List.mem_cons]
    · split
      · rename_i same
        rw [same, List.mem_cons]
        constructor
        · intro member
          exact .inr member
        · rintro (here | member)
          · exact .inl here
          · exact member
      · rw [List.mem_cons, ih, List.mem_cons]
        exact or_left_comm

/-- The chains are those of the keys. -/
theorem mem_chains {value : Authorization} {chain : Chain.Id} :
    chain ∈ value.chains ↔
      ∃ scope ∈ value.scopes, Chain.Scope.chainOfKey? scope.1 = some chain := by
  rw [chains, ← List.mem_filterMap]
  induction value.scopes.filterMap fun scope => Chain.Scope.chainOfKey? scope.1 with
  | nil => rfl
  | cons found rest ih => rw [List.foldr_cons, mem_insertChain, ih, List.mem_cons]

/-- A chain that is put in its place keeps ascending chains ascending. -/
theorem insertChain_ascending (chain : Chain.Id) {chains : List Chain.Id}
    (ascending : chains.Pairwise (· < ·)) : (insertChain chain chains).Pairwise (· < ·) := by
  induction chains with
  | nil => exact List.pairwise_singleton _ _
  | cons found rest ih =>
    obtain ⟨above, tail⟩ := List.pairwise_cons.1 ascending
    rw [insertChain]
    split
    · rename_i below
      refine List.pairwise_cons.2 ⟨fun other member => ?_, ascending⟩
      rcases List.mem_cons.1 member with rfl | later
      · exact below
      · exact UInt64.lt_trans below (above other later)
    · split
      · exact ascending
      · rename_i notBelow different
        have less : found < chain :=
          UInt64.lt_of_le_of_ne (UInt64.not_lt.1 notBelow) (Ne.symm different)
        refine List.pairwise_cons.2 ⟨fun other member => ?_, ih tail⟩
        rcases mem_insertChain.1 member with rfl | later
        · exact less
        · exact above other later

/-- The chains of an authorization ascend. -/
theorem chains_ascending (value : Authorization) : value.chains.Pairwise (· < ·) := by
  rw [chains]
  induction value.scopes.filterMap fun scope => Chain.Scope.chainOfKey? scope.1 with
  | nil => exact .nil
  | cons found rest ih => exact insertChain_ascending found ih

/-- A text is an account if it is read as one. -/
theorem parse?_eq_some_iff {text : String} {account : Chain.Account} :
    Chain.Account.parse? text = some account ↔ Chain.Account.parse text = .ok account := by
  unfold Chain.Account.parse?
  cases Chain.Account.parse text with
  | error cause => exact iff_of_false (by simp [Except.toOption]) (by simp)
  | ok found => simp [Except.toOption]

/-- The addresses are those of the accounts under keys of Ethereum. -/
theorem mem_ethereumAddresses {value : Authorization} {address : String} :
    address ∈ value.ethereumAddresses ↔
      ∃ scope ∈ value.scopes, Chain.Scope.isEthereumKey scope.1 = true ∧
        ∃ account ∈ scope.2, ∃ parsed, Chain.Account.parse account = .ok parsed ∧
          parsed.address = address := by
  unfold ethereumAddresses
  rw [List.mem_flatMap]
  constructor
  · rintro ⟨scope, filtered, listed⟩
    obtain ⟨member, ethereum⟩ := List.mem_filter.1 filtered
    obtain ⟨parsed, found, same⟩ := List.mem_map.1 listed
    obtain ⟨account, stands, reads⟩ := List.mem_filterMap.1 found
    exact ⟨scope, member, ethereum, account, stands, parsed, parse?_eq_some_iff.1 reads, same⟩
  · rintro ⟨scope, member, ethereum, account, stands, parsed, reads, same⟩
    refine ⟨scope, List.mem_filter.2 ⟨member, ethereum⟩, List.mem_map.2 ⟨parsed, ?_, same⟩⟩
    exact List.mem_filterMap.2 ⟨account, stands, parse?_eq_some_iff.2 reads⟩

/-- What holds of addresses however their letters are written holds of the Ethereum accounts if it
holds of every address. -/
theorem forall_ethereumAccounts (value : Authorization) (property : String → Prop) :
    (∀ address ∈ value.ethereumAccounts, property address.toLower) ↔
      ∀ address ∈ value.ethereumAddresses, property address.toLower := by
  constructor
  · intro holds address member
    obtain ⟨first, found, same⟩ := exists_firstsBy String.toLower member
    rw [← same]
    exact holds first found
  · intro holds address member
    exact holds address (mem_of_mem_firstsBy member)

end Authorization

end WalletCore
