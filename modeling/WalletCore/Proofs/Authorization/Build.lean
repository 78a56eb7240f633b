import WalletCore.Authorization.Edit
import WalletCore.Authorization.Merge
import WalletCore.Proofs.Chain.Scope
import WalletCore.Proofs.Except
import WalletCore.Proofs.Table

/-! # What is authorized by building and merging

An authorization that is built from addresses and chains lists every address under the scope of the
wallet and under the scope of every chain, and nothing else. Merged into another authorization it
adds these scopes and accounts to the optional ones and changes nothing else.
-/
namespace WalletCore.Authorization

/-- Whether an account is listed under a key. -/
def Lists (scopes : Table (List String)) (key account : String) : Prop :=
  ∃ listed, scopes.get? key = some listed ∧ account ∈ listed

/-- An account is listed under a key among the accounts that stand there. -/
theorem Lists.mem {scopes : Table (List String)} {key account : String} {accounts : List String}
    (lists : Lists scopes key account) (found : scopes.get? key = some accounts) :
    account ∈ accounts := by
  obtain ⟨listed, stored, member⟩ := lists
  rw [found] at stored
  cases stored
  exact member

/-- Under a key that is not there no account is listed. -/
theorem not_lists_of_get?_eq_none {scopes : Table (List String)} {key account : String}
    (absent : scopes.get? key = none) : ¬ Lists scopes key account := by
  rintro ⟨listed, stored, -⟩
  rw [absent] at stored
  contradiction

/-- The keys of the scopes that are built for chains. -/
def builtKeys (chains : List Chain.Id) : List String :=
  Chain.Scope.walletEip155.toText :: chains.map chainKey

/-- An authorization that holds what another one holds, and beside it the optional authorization of
addresses on chains. -/
structure Extends (former value : Authorization) (addresses : List String)
    (chains : List Chain.Id) : Prop where
  /-- The required scopes are the former ones. -/
  required : value.required = former.required
  /-- The origin of the grant is the former one. -/
  multichain : value.multichain = former.multichain
  /-- The session properties are the former ones. -/
  session : value.session = former.session
  /-- The optional scopes are the former ones and those of the chains. -/
  keys : ∀ key, key ∈ value.optional.keys ↔
    key ∈ former.optional.keys ∨ key ∈ builtKeys chains
  /-- The optional accounts are the former ones and the addresses on the chains. -/
  accounts : ∀ key account, Lists value.optional key account ↔
    Lists former.optional key account ∨
      (key ∈ builtKeys chains ∧ ∃ address ∈ addresses, account = accountUnder key address)

/-! ## Building -/

/-- The key of a chain is a key of Ethereum. -/
theorem isEthereumKey_chainKey (chain : Chain.Id) :
    Chain.Scope.isEthereumKey (chainKey chain) = true :=
  Chain.Scope.isEthereumKey_iff.2 ⟨_, Chain.Scope.parse?_eip155 chain, rfl⟩

/-- The keys that are built are keys of Ethereum. -/
theorem isEthereumKey_of_mem_builtKeys {chains : List Chain.Id} {key : String}
    (member : key ∈ builtKeys chains) : Chain.Scope.isEthereumKey key = true := by
  rcases List.mem_cons.1 member with rfl | found
  · exact Chain.Scope.isEthereumKey_iff.2 ⟨_, Chain.Scope.parse?_walletEip155, rfl⟩
  · obtain ⟨chain, -, rfl⟩ := List.mem_map.1 found
    exact isEthereumKey_chainKey chain

/-- Adding a chain that is required changes nothing. -/
theorem addChain_of_required {value : Authorization} {chain : Chain.Id}
    (known : chainKey chain ∈ value.required.keys) : value.addChain chain = value :=
  if_pos (Table.contains_iff_mem_keys.2 known)

/-- A chain that is not required gets an optional scope, without accounts if it had none. -/
theorem addChain_of_not_required {value : Authorization} {chain : Chain.Id}
    (new : chainKey chain ∉ value.required.keys) :
    value.addChain chain =
      { value with optional := value.optional.upsert (chainKey chain) (·.getD []) } :=
  if_neg (mt Table.contains_iff_mem_keys.1 new)

/-- Chains that are added one after another have optional scopes, unless they are required; nothing
else changes. -/
theorem addChains_spec (chains : List Chain.Id) (value : Authorization) :
    (chains.foldl addChain value).required = value.required ∧
      (chains.foldl addChain value).multichain = value.multichain ∧
      (chains.foldl addChain value).session = value.session ∧
      ∀ key, (chains.foldl addChain value).optional.get? key =
        if key ∈ chains.map chainKey ∧ key ∉ value.required.keys then
          some ((value.optional.get? key).getD [])
        else value.optional.get? key := by
  induction chains generalizing value with
  | nil => exact ⟨rfl, rfl, rfl, fun key => (if_neg fun added => List.not_mem_nil added.1).symm⟩
  | cons chain rest ih =>
    obtain ⟨required, multichain, session, optional⟩ := ih (value.addChain chain)
    rw [List.foldl_cons]
    by_cases known : chainKey chain ∈ value.required.keys
    · rw [addChain_of_required known] at required multichain session optional ⊢
      refine ⟨required, multichain, session, fun key => ?_⟩
      rw [optional]
      by_cases here : key = chainKey chain
      · rw [← here] at known
        simp [known]
      · simp [here]
    · rw [addChain_of_not_required known] at required multichain session optional ⊢
      refine ⟨required, multichain, session, fun key => ?_⟩
      rw [optional]
      by_cases here : key = chainKey chain
      · rw [← here] at known
        simp [← here, known, Table.get?_upsert]
      · simp [here, Table.get?_upsert]

/-- What is built from addresses on chains. -/
structure Built (value : Authorization) (addresses : List String) (chains : List Chain.Id) :
    Prop where
  /-- Nothing is required. -/
  required : value.required = .empty
  /-- The grant is for Ethereum alone. -/
  multichain : value.multichain = false
  /-- The session has no properties. -/
  session : value.session = .empty
  /-- Each of the keys lists the addresses, and there is no other key. -/
  optional : ∀ key, value.optional.get? key =
    if key ∈ builtKeys chains then some (addresses.map (accountUnder key)) else none

/-- The authorization of nothing but the scope of the wallet keeps that scope, whatever chains it is
restricted to. -/
theorem get?_walletOnly_keepChains (chains : List Chain.Id) (key : String) :
    (walletOnly.keepChains chains).optional.get? key =
      if key = Chain.Scope.walletEip155.toText then some [] else none := by
  have unchained : Chain.Scope.chainOfKey? Chain.Scope.walletEip155.toText = none := by
    rw [Chain.Scope.chainOfKey?, Chain.Scope.parse?_walletEip155]
  simp only [keepChains, walletOnly, Table.get?_filterKeys, Table.get?_insert]
  by_cases same : key = Chain.Scope.walletEip155.toText
  · simp [same, unchained]
  · simp [same, Table.get?_empty]

/-- Where building succeeds the chain ids are well formed, and every address is on every chain. -/
theorem build_eq_ok {addresses ids : List String} {value : Authorization}
    (built : build addresses ids = .ok value) :
    ∃ chains, ids.mapM Chain.Id.ofHex = .ok chains ∧ Built value addresses chains := by
  obtain ⟨wallet, withChains, whole⟩ := bind_eq_ok_iff.1 built
  obtain ⟨chains, read, chained⟩ := bind_eq_ok_iff.1 withChains
  have unlisted : walletOnly.ethereumAccounts = [] := by decide +kernel
  obtain ⟨required, multichain, session, optional⟩ :=
    addChains_spec chains (walletOnly.keepChains chains)
  rw [unlisted] at chained
  cases chained
  cases whole
  refine ⟨chains, read, ?_, multichain, session, fun key => ?_⟩
  · simp only [withAccounts, required]
    rfl
  · -- Before the addresses are listed, each key that is built has a scope without accounts.
    have unlisted : (chains.foldl addChain (walletOnly.keepChains chains)).optional.get? key =
        if key ∈ builtKeys chains then some [] else none := by
      have notRequired : key ∉ (walletOnly.keepChains chains).required.keys := List.not_mem_nil
      rw [optional, get?_walletOnly_keepChains]
      by_cases wallet : key = Chain.Scope.walletEip155.toText
      · simp [wallet, builtKeys]
      · simp [wallet, builtKeys, notRequired]
    simp only [withAccounts, listUnder, Table.get?_mapEntries, unlisted]
    by_cases granted : key ∈ builtKeys chains
    · have ethereum := isEthereumKey_of_mem_builtKeys granted
      rw [if_pos granted, if_pos granted]
      simp [ethereum]
    · rw [if_neg granted, if_neg granted]
      rfl

/-- Building fails with what is wrong with one of the chain ids. -/
theorem build_eq_error {addresses ids : List String} {cause : Permission.Error}
    (failed : build addresses ids = .error cause) :
    ∃ id ∈ ids, Chain.Id.ofHex id = .error cause := by
  rcases bind_eq_error_iff.1 failed with withChains | ⟨wallet, -, impossible⟩
  · rcases bind_eq_error_iff.1 withChains with read | ⟨chains, -, impossible⟩
    · exact exists_error_of_mapM read
    · contradiction
  · contradiction

/-- The keys of what was built. -/
theorem Built.mem_keys {value : Authorization} {addresses : List String}
    {chains : List Chain.Id} (built : Built value addresses chains) {key : String} :
    key ∈ value.optional.keys ↔ key ∈ builtKeys chains := by
  rw [Table.mem_keys_iff, built.optional]
  split
  · rename_i granted
    exact iff_of_true ⟨_, rfl⟩ granted
  · rename_i other
    refine iff_of_false ?_ other
    rintro ⟨listed, found⟩
    contradiction

/-- The accounts of what was built. -/
theorem Built.lists {value : Authorization} {addresses : List String} {chains : List Chain.Id}
    (built : Built value addresses chains) {key account : String} :
    Lists value.optional key account ↔
      key ∈ builtKeys chains ∧ ∃ address ∈ addresses, account = accountUnder key address := by
  rw [Lists, built.optional]
  constructor
  · rintro ⟨listed, found, member⟩
    split at found
    · rename_i granted
      cases found
      obtain ⟨address, known, rfl⟩ := List.mem_map.1 member
      exact ⟨granted, address, known, rfl⟩
    · contradiction
  · rintro ⟨granted, address, known, rfl⟩
    rw [if_pos granted]
    exact ⟨_, rfl, List.mem_map_of_mem known⟩

/-- An authorization that was built extends the one of nothing. -/
theorem Built.extends_empty {value : Authorization} {addresses : List String}
    {chains : List Chain.Id} (built : Built value addresses chains) :
    Extends .empty value addresses chains where
  required := built.required
  multichain := built.multichain
  session := built.session
  keys key := by
    have nothing : key ∉ (Table.empty : Table (List String)).keys := List.not_mem_nil
    rw [built.mem_keys]
    exact (or_iff_right nothing).symm
  accounts key account := by
    have nothing : ¬ Lists .empty key account :=
      not_lists_of_get?_eq_none (Table.get?_empty key)
    rw [built.lists]
    exact (or_iff_right nothing).symm

/-! ## Merging -/

/-- Append an account, unless it is listed. -/
def addAccount (accounts : List String) (account : String) : List String :=
  if account ∈ accounts then accounts else accounts ++ [account]

/-- A merge adds the accounts of the second list one after another. -/
theorem mergeAccounts_cons (accounts : List String) (account : String) (more : List String) :
    mergeAccounts accounts (account :: more) =
      mergeAccounts (addAccount accounts account) more := rfl

/-- After an account was added it is listed beside the others. -/
theorem mem_addAccount {accounts : List String} {account other : String} :
    other ∈ addAccount accounts account ↔ other ∈ accounts ∨ other = account := by
  unfold addAccount
  split
  · rename_i listed
    constructor
    · exact .inl
    · rintro (member | rfl)
      · exact member
      · exact listed
  · rw [List.mem_append, List.mem_singleton]

/-- The accounts of a merge are those of both lists. -/
theorem mem_mergeAccounts {accounts more : List String} {account : String} :
    account ∈ mergeAccounts accounts more ↔ account ∈ accounts ∨ account ∈ more := by
  induction more generalizing accounts with
  | nil => exact (or_iff_left List.not_mem_nil).symm
  | cons head rest ih => rw [mergeAccounts_cons, ih, mem_addAccount, List.mem_cons, or_assoc]

/-- A merge has the scopes of both tables, each with the accounts of both. -/
theorem get?_mergeScopes (left right : Table (List String)) (key : String) :
    (mergeScopes left right).get? key =
      (right.get? key).elim (left.get? key) fun more =>
        some (mergeAccounts ((left.get? key).getD []) more) :=
  Table.get?_foldl_upsert right.names_nodup
    (fun more listed => mergeAccounts (listed.getD []) more) left key

/-- The keys of a merge are those of both tables. -/
theorem mem_keys_mergeScopes {left right : Table (List String)} {key : String} :
    key ∈ (mergeScopes left right).keys ↔ key ∈ left.keys ∨ key ∈ right.keys := by
  simp only [Table.mem_keys_iff, get?_mergeScopes]
  cases more : right.get? key with
  | none => simp
  | some accounts => simp

/-- A merge lists what both tables list. -/
theorem lists_mergeScopes {left right : Table (List String)} {key account : String} :
    Lists (mergeScopes left right) key account ↔
      Lists left key account ∨ Lists right key account := by
  simp only [Lists, get?_mergeScopes]
  cases left.get? key with
  | none =>
    cases right.get? key with
    | none => simp
    | some more => simp [mem_mergeAccounts]
  | some listed =>
    cases right.get? key with
    | none => simp
    | some more => simp [mem_mergeAccounts]

/-- An authorization is empty if it has no scope. -/
theorem isEmpty_iff {value : Authorization} : value.isEmpty = true ↔ value.scopes = [] := by
  rw [isEmpty, Bool.and_eq_true, Table.isEmpty, Table.isEmpty, List.isEmpty_iff, List.isEmpty_iff,
    scopes, List.append_eq_nil_iff]

/-- An authorization has a scope if one of its tables has a key. -/
theorem scopes_ne_nil_iff {value : Authorization} :
    value.scopes ≠ [] ↔ ∃ key, key ∈ value.required.keys ∨ key ∈ value.optional.keys := by
  constructor
  · intro nonempty
    obtain ⟨entry, member⟩ := List.exists_mem_of_ne_nil _ nonempty
    rcases List.mem_append.1 member with inRequired | inOptional
    · exact ⟨entry.1, .inl (List.mem_map_of_mem inRequired)⟩
    · exact ⟨entry.1, .inr (List.mem_map_of_mem inOptional)⟩
  · rintro ⟨key, inRequired | inOptional⟩
    · obtain ⟨entry, member, -⟩ := List.mem_map.1 inRequired
      exact List.ne_nil_of_mem (List.mem_append_left _ member)
    · obtain ⟨entry, member, -⟩ := List.mem_map.1 inOptional
      exact List.ne_nil_of_mem (List.mem_append_right _ member)

/-- A merge has a scope if the authorization that is merged has one. -/
theorem scopes_merge_ne_nil_of_right {left right : Authorization} (nonempty : right.scopes ≠ []) :
    (left.merge right).scopes ≠ [] := by
  obtain ⟨key, inRequired | inOptional⟩ := scopes_ne_nil_iff.1 nonempty
  · exact scopes_ne_nil_iff.2 ⟨key, .inl (mem_keys_mergeScopes.2 (.inr inRequired))⟩
  · exact scopes_ne_nil_iff.2 ⟨key, .inr (mem_keys_mergeScopes.2 (.inr inOptional))⟩

/-- A merge with what was built extends the authorization that it is merged into. -/
theorem Built.extends_merge {value : Authorization} {addresses : List String}
    {chains : List Chain.Id} (built : Built value addresses chains) (former : Authorization) :
    Extends former (former.merge value) addresses chains where
  required := by
    simp only [merge, built.required]
    rfl
  multichain := by simp only [merge, built.multichain, Bool.or_false]
  session := by
    simp only [merge, built.session]
    rfl
  keys key := mem_keys_mergeScopes.trans (or_congr_right built.mem_keys)
  accounts key account := lists_mergeScopes.trans (or_congr_right built.lists)

end WalletCore.Authorization
