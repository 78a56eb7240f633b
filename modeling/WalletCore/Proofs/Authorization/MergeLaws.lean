import WalletCore.Proofs.Authorization.Union

/-! # Laws of merging

Several grants may be merged in any grouping: the result is the same to the order of the accounts
and of the session properties. A grant that is merged again adds nothing, and merging nothing
changes nothing. A grant that is merged into nothing loses the repetitions in its lists, so there
the law holds just for grants that list no account twice. The order of the two sides matters for the
order of what is listed, and for the session properties that both sides have.

The laws hold of lists of accounts first (`mergeAccounts_assoc`), then of what tables list under one
key, then of the tables.
-/
namespace WalletCore.Authorization

/-! ## Lists of accounts -/

/-- An account may be added before a list is merged or after it. -/
theorem mergeAccounts_addAccount (accounts more : List String) (account : String) :
    mergeAccounts accounts (addAccount more account) =
      addAccount (mergeAccounts accounts more) account := by
  by_cases listed : account ∈ more
  · have merged : account ∈ mergeAccounts accounts more := mem_mergeAccounts.2 (.inr listed)
    rw [addAccount, addAccount, if_pos listed, if_pos merged]
  · rw [addAccount, if_neg listed, mergeAccounts, List.foldl_append]
    rfl

/-- Three lists may be merged in either grouping. -/
theorem mergeAccounts_assoc (first second third : List String) :
    mergeAccounts (mergeAccounts first second) third =
      mergeAccounts first (mergeAccounts second third) := by
  induction third generalizing second with
  | nil => rfl
  | cons account rest ih =>
    -- The first account of the third list moves to the end of the second one.
    calc mergeAccounts (mergeAccounts first second) (account :: rest)
      _ = mergeAccounts (addAccount (mergeAccounts first second) account) rest := rfl
      _ = mergeAccounts (mergeAccounts first (addAccount second account)) rest := by
        rw [mergeAccounts_addAccount]
      _ = mergeAccounts first (mergeAccounts (addAccount second account) rest) :=
        ih (addAccount second account)
      _ = mergeAccounts first (mergeAccounts second (account :: rest)) := rfl

/-- Accounts that are all listed add nothing. -/
theorem mergeAccounts_of_subset {accounts more : List String}
    (listed : ∀ account ∈ more, account ∈ accounts) : mergeAccounts accounts more = accounts := by
  induction more with
  | nil => rfl
  | cons account rest ih =>
    obtain ⟨first, others⟩ := List.forall_mem_cons.1 listed
    have added : addAccount accounts account = accounts := if_pos first
    rw [mergeAccounts_cons, added, ih others]

/-- Accounts that are all new are appended as they are. -/
theorem mergeAccounts_of_nodup_append {accounts more : List String}
    (nodup : (accounts ++ more).Nodup) : mergeAccounts accounts more = accounts ++ more := by
  induction more generalizing accounts with
  | nil => exact (List.append_nil accounts).symm
  | cons account rest ih =>
    have new : account ∉ accounts := by
      obtain ⟨-, -, apart⟩ := List.nodup_append.1 nodup
      exact fun member => apart account member account List.mem_cons_self rfl
    have added : addAccount accounts account = accounts ++ [account] := if_neg new
    have behind : accounts ++ account :: rest = accounts ++ [account] ++ rest := by simp
    rw [behind] at nodup ⊢
    rw [mergeAccounts_cons, added, ih nodup]

/-- A list is the same after it was merged into an empty one, if no account stands twice in it. -/
theorem nil_mergeAccounts_iff {accounts : List String} :
    mergeAccounts [] accounts = accounts ↔ accounts.Nodup := by
  constructor
  · intro same
    rw [← same]
    exact nodup_mergeAccounts accounts .nil
  · intro nodup
    exact mergeAccounts_of_nodup_append nodup

/-! ## Tables of scopes -/

/-- Under each key, a merge of tables lists the merge of what they list. -/
theorem getD_mergeScopes (left right : Table (List String)) (key : String) :
    ((mergeScopes left right).get? key).getD [] =
      mergeAccounts ((left.get? key).getD []) ((right.get? key).getD []) := by
  rw [get?_mergeScopes]
  cases right.get? key with
  | none => rfl
  | some more => rfl

/-- Three tables may be merged in either grouping. -/
theorem mergeScopes_assoc (first second third : Table (List String)) :
    mergeScopes (mergeScopes first second) third =
      mergeScopes first (mergeScopes second third) := by
  apply Table.ext_get?
  intro key
  rw [get?_mergeScopes, getD_mergeScopes, get?_mergeScopes first (mergeScopes second third),
    get?_mergeScopes second third]
  cases third.get? key with
  | none => exact get?_mergeScopes first second key
  | some accounts => exact congrArg some (mergeAccounts_assoc _ _ accounts)

/-- A table that is merged with itself stays the same. -/
theorem mergeScopes_self (scopes : Table (List String)) : mergeScopes scopes scopes = scopes := by
  apply Table.ext_get?
  intro key
  rw [get?_mergeScopes]
  cases scopes.get? key with
  | none => rfl
  | some accounts => exact congrArg some (mergeAccounts_of_subset fun _ member => member)

/-- A table stays the same when it is merged into an empty one, if no account stands twice under a
key of it. -/
theorem empty_mergeScopes_iff {scopes : Table (List String)} :
    mergeScopes .empty scopes = scopes ↔ ∀ entry ∈ scopes.entries, entry.2.Nodup := by
  constructor
  · rintro same ⟨key, accounts⟩ member
    have found := Table.get?_eq_some_iff.2 member
    have merged := get?_mergeScopes .empty scopes key
    rw [same, found] at merged
    exact nil_mergeAccounts_iff.1 (Option.some.inj merged).symm
  · intro once
    apply Table.ext_get?
    intro key
    rw [get?_mergeScopes, Table.get?_empty]
    cases found : scopes.get? key with
    | none => rfl
    | some accounts =>
      have nodup := once _ (Table.get?_eq_some_iff.1 found)
      exact congrArg some (nil_mergeAccounts_iff.2 nodup)

/-- Merged in either order, two tables have the same keys. -/
theorem keys_mergeScopes_swap (left right : Table (List String)) :
    (mergeScopes left right).keys = (mergeScopes right left).keys := by
  refine Table.keys_eq_iff.2 fun key => ?_
  rw [mem_keys_mergeScopes, mem_keys_mergeScopes]
  exact or_comm

/-- Merged in either order, two tables list the same accounts. -/
theorem lists_mergeScopes_swap {left right : Table (List String)} {key account : String} :
    Lists (mergeScopes left right) key account ↔ Lists (mergeScopes right left) key account := by
  rw [lists_mergeScopes, lists_mergeScopes]
  exact or_comm

/-! ## Authorizations -/

/-- Whether no scope lists an account twice. -/
def ListsOnce (value : Authorization) : Prop := ∀ entry ∈ value.scopes, entry.2.Nodup

/-- Authorizations of the same, in whatever order accounts and session properties stand. -/
structure SameGrants (left right : Authorization) : Prop where
  /-- The same keys are required. -/
  requiredKeys : left.required.keys = right.required.keys
  /-- The same keys are optional. -/
  optionalKeys : left.optional.keys = right.optional.keys
  /-- The same accounts are required. -/
  requiredAccounts : ∀ key account,
    Lists left.required key account ↔ Lists right.required key account
  /-- The same accounts are optional. -/
  optionalAccounts : ∀ key account,
    Lists left.optional key account ↔ Lists right.optional key account
  /-- The grants came through the same interface. -/
  multichain : left.multichain = right.multichain
  /-- The session properties have the same names. -/
  session : left.session.names.Perm right.session.names

/-- Three authorizations may be merged in either grouping. -/
theorem merge_assoc (first second third : Authorization) :
    (first.merge second).merge third = first.merge (second.merge third) := by
  simp only [merge, mergeScopes_assoc, Members.putAll_putAll, Bool.or_assoc]

/-- An authorization that is merged with itself stays the same. -/
theorem merge_self (value : Authorization) : value.merge value = value := by
  simp only [merge, mergeScopes_self, Members.putAll_entries, Bool.or_self]

/-- Merging nothing changes nothing. -/
theorem merge_empty (value : Authorization) : value.merge .empty = value := by
  have flag : (value.multichain || Authorization.empty.multichain) = value.multichain :=
    Bool.or_false value.multichain
  rw [merge, flag]
  rfl

/-- An authorization stays the same when it is merged into nothing, if no scope of it lists an
account twice. -/
theorem empty_merge_iff {value : Authorization} :
    Authorization.empty.merge value = value ↔ value.ListsOnce := by
  have flag : (Authorization.empty.multichain || value.multichain) = value.multichain :=
    Bool.false_or value.multichain
  have session : Authorization.empty.session.putAll value.session.entries = value.session :=
    value.session.empty_putAll
  have parts : Authorization.empty.merge value = value ↔
      mergeScopes .empty value.required = value.required ∧
        mergeScopes .empty value.optional = value.optional := by
    rw [merge, flag, session]
    constructor
    · intro same
      exact ⟨congrArg required same, congrArg optional same⟩
    · rintro ⟨required, optional⟩
      change (⟨mergeScopes .empty value.required, mergeScopes .empty value.optional,
        value.multichain, value.session⟩ : Authorization) = value
      rw [required, optional]
  rw [parts, empty_mergeScopes_iff, empty_mergeScopes_iff, ListsOnce, scopes,
    List.forall_mem_append]

/-- Merged in either order, two authorizations grant the same. -/
theorem merge_swap (left right : Authorization) :
    SameGrants (left.merge right) (right.merge left) where
  requiredKeys := keys_mergeScopes_swap left.required right.required
  optionalKeys := keys_mergeScopes_swap left.optional right.optional
  requiredAccounts key account := lists_mergeScopes_swap
  optionalAccounts key account := lists_mergeScopes_swap
  multichain := Bool.or_comm left.multichain right.multichain
  session := by
    refine (List.perm_ext_iff_of_nodup (Members.nodup _) (Members.nodup _)).2 fun name => ?_
    change name ∈ (left.session.putAll right.session.entries).names ↔
      name ∈ (right.session.putAll left.session.entries).names
    rw [Members.names_putAll_entries, Members.names_putAll_entries]
    by_cases onLeft : name ∈ left.session.names
    · simp [onLeft, Decidable.em]
    · simp [onLeft]

/-- A session property that only one side has is the same in either order. -/
theorem session_merge_swap {left right : Authorization} {name : String}
    (single : left.session.get? name = none ∨ right.session.get? name = none) :
    (left.merge right).session.get? name = (right.merge left).session.get? name := by
  change (left.session.putAll right.session.entries).get? name =
    (right.session.putAll left.session.entries).get? name
  rw [Members.get?_putAll_entries, Members.get?_putAll_entries]
  rcases single with absent | absent
  · rw [absent, Option.or_none, Option.none_or]
  · rw [absent, Option.or_none, Option.none_or]

/-- Merging is associative and idempotent to the order of all that is listed, nothing is its unit on
the right, and on the left for an authorization that lists no account twice. A second merge of the
same authorization changes nothing. Which side comes first decides only the order of accounts and of
session properties, and the value of a session property that both sides have. -/
theorem merge_laws (first second third : Authorization) :
    (first.merge second).merge third = first.merge (second.merge third) ∧
      first.merge first = first ∧
      first.merge .empty = first ∧
      (Authorization.empty.merge first = first ↔ first.ListsOnce) ∧
      (first.merge second).merge second = first.merge second ∧
      SameGrants (first.merge second) (second.merge first) ∧
      ∀ name, first.session.get? name = none ∨ second.session.get? name = none →
        (first.merge second).session.get? name = (second.merge first).session.get? name := by
  have again : (first.merge second).merge second = first.merge second := by
    rw [merge_assoc, merge_self]
  refine ⟨merge_assoc first second third, merge_self first, merge_empty first, empty_merge_iff,
    again, merge_swap first second, fun name single => ?_⟩
  exact session_merge_swap single

end WalletCore.Authorization
