import WalletCore.Proofs.Authorization.Scopes

/-! # A merge is the union of two grants

A merge grants what one of its two sides grants and nothing else. It goes through the accounts of
the second side one by one and appends those that are not there yet (`addAccount`), so the list of
the first side stays in front, and an account that was appended is not appended again. What an
origin reads off the merge, its chains and its Ethereum addresses, is the union of what it reads off
both sides (`merge_unites`).
-/
namespace WalletCore.Authorization

/-! ## Lists of accounts -/

/-- The list to which an account is added stays in front. -/
theorem prefix_addAccount (accounts : List String) (account : String) :
    accounts <+: addAccount accounts account := by
  unfold addAccount
  split
  · exact List.prefix_refl accounts
  · exact List.prefix_append accounts [account]

/-- An account that is added is not listed twice. -/
theorem nodup_addAccount {accounts : List String} (account : String) (nodup : accounts.Nodup) :
    (addAccount accounts account).Nodup := by
  unfold addAccount
  split
  · exact nodup
  · rename_i new
    refine List.nodup_append.2 ⟨nodup, List.pairwise_singleton _ account, ?_⟩
    intro listed member added single same
    rw [List.mem_singleton.1 single] at same
    rw [same] at member
    exact new member

/-- The accounts of the first list stay in front. -/
theorem prefix_mergeAccounts (accounts more : List String) :
    accounts <+: mergeAccounts accounts more := by
  induction more generalizing accounts with
  | nil => exact List.prefix_refl accounts
  | cons account rest ih =>
    have added := prefix_addAccount accounts account
    have merged := ih (addAccount accounts account)
    exact added.trans merged

/-- A merge lists no account twice if the first list does not. -/
theorem nodup_mergeAccounts {accounts : List String} (more : List String)
    (nodup : accounts.Nodup) : (mergeAccounts accounts more).Nodup := by
  induction more generalizing accounts with
  | nil => exact nodup
  | cons account rest ih => exact ih (nodup_addAccount account nodup)

/-! ## Tables of scopes -/

/-- A table of scopes that unites two others. -/
structure UnitesScopes (left right union : Table (List String)) : Prop where
  /-- There are the keys of both tables. -/
  keys : ∀ key, key ∈ union.keys ↔ key ∈ left.keys ∨ key ∈ right.keys
  /-- Under each key there are the accounts of both tables. -/
  accounts : ∀ key account, Lists union key account ↔
    Lists left key account ∨ Lists right key account
  /-- The accounts of the first table come first, in their order. -/
  front : ∀ key listed, left.get? key = some listed →
    ∃ united, union.get? key = some united ∧ listed <+: united
  /-- No account is listed twice under a key, unless one of the tables does that. -/
  once : ∀ key, (∀ listed, left.get? key = some listed → listed.Nodup) →
    (∀ listed, right.get? key = some listed → listed.Nodup) →
      ∀ united, union.get? key = some united → united.Nodup

/-- A merge of tables unites them. -/
theorem mergeScopes_unites (left right : Table (List String)) :
    UnitesScopes left right (mergeScopes left right) where
  keys key := mem_keys_mergeScopes
  accounts key account := lists_mergeScopes
  front key listed found := by
    cases more : right.get? key with
    | none =>
      have kept : (mergeScopes left right).get? key = some listed := by
        rw [get?_mergeScopes, more, found]
        rfl
      exact ⟨listed, kept, List.prefix_refl listed⟩
    | some added =>
      have united : (mergeScopes left right).get? key = some (mergeAccounts listed added) := by
        rw [get?_mergeScopes, more, found]
        rfl
      exact ⟨_, united, prefix_mergeAccounts listed added⟩
  once key onceLeft onceRight united found := by
    rw [get?_mergeScopes] at found
    cases more : right.get? key with
    | none =>
      rw [more] at found
      exact onceLeft united found
    | some added =>
      rw [more] at found
      cases found
      refine nodup_mergeAccounts added ?_
      cases former : left.get? key with
      | none => exact .nil
      | some listed => exact onceLeft listed former

/-! ## What is read off a merge -/

variable {left right : Authorization}

/-- A merge has the scopes of both sides. -/
theorem hasScope_merge {key : String} :
    (left.merge right).HasScope key ↔ left.HasScope key ∨ right.HasScope key := by
  change _ ∈ (mergeScopes _ _).keys ∨ _ ∈ (mergeScopes _ _).keys ↔ _
  rw [mem_keys_mergeScopes, mem_keys_mergeScopes]
  exact or_or_or_comm

/-- A merge grants the accounts of both sides. -/
theorem grants_merge {key account : String} :
    (left.merge right).Grants key account ↔ left.Grants key account ∨ right.Grants key account := by
  change Lists (mergeScopes _ _) _ _ ∨ Lists (mergeScopes _ _) _ _ ↔ _
  rw [lists_mergeScopes, lists_mergeScopes]
  exact or_or_or_comm

/-- A merge has the chains of both sides. -/
theorem mem_chains_merge {chain : Chain.Id} :
    chain ∈ (left.merge right).chains ↔ chain ∈ left.chains ∨ chain ∈ right.chains := by
  simp only [mem_chains_iff_hasScope, hasScope_merge, or_and_right, exists_or]

/-- A merge has the chain ids of both sides. -/
theorem mem_chainIds_merge {id : String} :
    id ∈ (left.merge right).chainIds ↔ id ∈ left.chainIds ∨ id ∈ right.chainIds := by
  simp only [mem_chainIds, mem_chains_merge, or_and_right, exists_or]

/-- A merge has the Ethereum addresses of both sides. -/
theorem mem_ethereumAddresses_merge {address : String} :
    address ∈ (left.merge right).ethereumAddresses ↔
      address ∈ left.ethereumAddresses ∨ address ∈ right.ethereumAddresses := by
  simp only [mem_ethereumAddresses_iff_grants, grants_merge, or_and_right, and_or_left, exists_or]

/-- But for the case of letters, a merge has the Ethereum accounts of both sides. -/
theorem mem_lowered_ethereumAccounts_merge {folded : String} :
    folded ∈ (left.merge right).ethereumAccounts.map String.toLower ↔
      folded ∈ left.ethereumAccounts.map String.toLower ∨
        folded ∈ right.ethereumAccounts.map String.toLower := by
  simp only [ethereumAccounts, mem_map_firstsBy]
  simp only [List.mem_map, mem_ethereumAddresses_merge, or_and_right, exists_or]

/-- A merge is the exact union of two authorizations. Both its tables unite those of the two sides,
and it came through the interface for many chains if one of them did. Of a session property the
second side decides where it has one. The chain ids that are read off it ascend and are those of
both sides, and so are, but for the case of letters, the Ethereum accounts. -/
theorem merge_unites (left right : Authorization) :
    let union := left.merge right
    UnitesScopes left.required right.required union.required ∧
      UnitesScopes left.optional right.optional union.optional ∧
      union.multichain = (left.multichain || right.multichain) ∧
      (∀ name, union.session.get? name =
        (right.session.get? name).or (left.session.get? name)) ∧
      AscendingIds union.chainIds ∧
      (∀ id, id ∈ union.chainIds ↔ id ∈ left.chainIds ∨ id ∈ right.chainIds) ∧
      ∀ folded, folded ∈ union.ethereumAccounts.map String.toLower ↔
        folded ∈ left.ethereumAccounts.map String.toLower ∨
          folded ∈ right.ethereumAccounts.map String.toLower := by
  intro union
  have required := mergeScopes_unites left.required right.required
  have optional := mergeScopes_unites left.optional right.optional
  have session : ∀ name, union.session.get? name =
      (right.session.get? name).or (left.session.get? name) :=
    Members.get?_putAll_entries left.session right.session
  have ascending : AscendingIds union.chainIds := ascendingIds_chainIds union
  refine ⟨required, optional, rfl, session, ascending, fun id => ?_, fun folded => ?_⟩
  · exact mem_chainIds_merge
  · exact mem_lowered_ethereumAccounts_merge

end WalletCore.Authorization
