import WalletCore.Proofs.Authorization.Accounts

/-! # Setting the chains of an authorization

Setting the chains goes in two steps: the optional scopes of other chains are removed and missing
scopes are added (`rechained`), then the Ethereum accounts that were there are listed under every
scope of Ethereum. The first step is known by its keys, which depend only on which chains are named
and are the same after a second time. The second step keeps the keys; as long as a scope of Ethereum
is left, the accounts that are read after it are those that were read before.
-/
namespace WalletCore.Authorization

open Chain (Scope)

/-! ## Removing and adding scopes -/

/-- Whether a chain is named by one of the ids. -/
def Named (ids : List String) (chain : Chain.Id) : Prop :=
  ∃ id ∈ ids, Chain.Id.ofHex id = .ok chain

/-- The authorization with scopes for just the given chains beside the required ones, before its
accounts are listed. -/
def rechained (value : Authorization) (chains : List Chain.Id) : Authorization :=
  chains.foldl addChain (value.keepChains chains)

/-- The key of a chain reads as the scope of the chain. -/
theorem chainOfKey?_chainKey (chain : Chain.Id) : Scope.chainOfKey? (chainKey chain) = some chain :=
  Scope.chainOfKey?_eq_some_iff.2 (Scope.parse?_eip155 chain)

/-- A key that is none of Ethereum is the key of no chain. -/
theorem chainOfKey?_of_other {key : String} (other : Scope.isEthereumKey key = false) :
    Scope.chainOfKey? key = none := by
  refine Option.eq_none_iff_forall_ne_some.2 fun chain reads => ?_
  have ethereum : Scope.isEthereumKey key = true :=
    Scope.isEthereumKey_iff.2 ⟨_, Scope.chainOfKey?_eq_some_iff.1 reads, rfl⟩
  rw [other] at ethereum
  contradiction

/-- Whether the optional scope of a key stays: it is that of a given chain, or of no chain. -/
def staysFor (chains : List Chain.Id) (key : String) : Bool :=
  (Scope.chainOfKey? key).all (chains.contains ·)

/-- An optional scope stays if its chain, where it has one, is a given one. -/
theorem staysFor_iff {chains : List Chain.Id} {key : String} :
    staysFor chains key = true ↔
      ∀ chain, Scope.chainOfKey? key = some chain → chain ∈ chains := by
  simp [staysFor, Option.all_eq_true]

/-- An optional scope stays if it is that of no chain or that of a given one. -/
theorem staysFor_iff_or {chains : List Chain.Id} {key : String} :
    staysFor chains key = true ↔ (∀ chain, Scope.parse? key ≠ some (.eip155 chain)) ∨
      ∃ chain ∈ chains, Scope.parse? key = some (.eip155 chain) := by
  simp only [staysFor_iff, ← Scope.chainOfKey?_eq_some_iff, ne_eq]
  cases reads : Scope.chainOfKey? key with
  | none => simp
  | some chain => simp

section Rechained

variable (value : Authorization) (chains : List Chain.Id)

/-- The required scopes are not touched. -/
theorem required_rechained : (value.rechained chains).required = value.required :=
  (addChains_spec chains (value.keepChains chains)).1

/-- The interface of the grant is not touched. -/
theorem multichain_rechained : (value.rechained chains).multichain = value.multichain :=
  (addChains_spec chains (value.keepChains chains)).2.1

/-- The session properties are not touched. -/
theorem session_rechained : (value.rechained chains).session = value.session :=
  (addChains_spec chains (value.keepChains chains)).2.2.1

/-- An optional scope that stays keeps its accounts, and one that is added has none. -/
theorem get?_rechained (key : String) :
    (value.rechained chains).optional.get? key =
      if staysFor chains key = true ∧ key ∈ value.optional.keys then value.optional.get? key
      else if key ∈ chains.map chainKey ∧ key ∉ value.required.keys then some [] else none := by
  have added := (addChains_spec chains (value.keepChains chains)).2.2.2 key
  have kept : (value.keepChains chains).optional.get? key =
      if staysFor chains key = true then value.optional.get? key else none :=
    Table.get?_filterKeys value.optional (staysFor chains) key
  rw [rechained, added, kept]
  change (if key ∈ chains.map chainKey ∧ key ∉ value.required.keys then _ else _) = _
  by_cases stays : staysFor chains key = true
  · cases found : value.optional.get? key with
    | none =>
      have absent := Table.get?_eq_none_iff.1 found
      simp [stays, absent]
    | some listed =>
      have known := Table.mem_keys_iff.2 ⟨listed, found⟩
      simp [stays, known]
  · simp [stays]

end Rechained

variable {value : Authorization} {chains : List Chain.Id}

/-- The optional keys afterwards are those that stay and those that are added. -/
theorem mem_keys_rechained {key : String} :
    key ∈ (value.rechained chains).optional.keys ↔
      (staysFor chains key = true ∧ key ∈ value.optional.keys) ∨
        (key ∈ chains.map chainKey ∧ key ∉ value.required.keys) := by
  rw [Table.mem_keys_iff, get?_rechained, ← Option.isSome_iff_exists]
  by_cases stays : staysFor chains key = true ∧ key ∈ value.optional.keys
  · rw [if_pos stays, Option.isSome_iff_exists, ← Table.mem_keys_iff]
    exact iff_of_true stays.2 (.inl stays)
  · rw [if_neg stays, or_iff_right stays]
    split
    · rename_i added
      exact iff_of_true rfl added
    · rename_i absent
      exact iff_of_false (fun present => by contradiction) absent

/-- The optional scope of a key that is none of Ethereum is not touched. -/
theorem get?_rechained_of_other {key : String} (other : Scope.isEthereumKey key = false) :
    (value.rechained chains).optional.get? key = value.optional.get? key := by
  have stays : staysFor chains key = true := by
    rw [staysFor, chainOfKey?_of_other other]
    rfl
  have notAdded : key ∉ chains.map chainKey := by
    intro added
    obtain ⟨chain, -, rfl⟩ := List.mem_map.1 added
    rw [isEthereumKey_chainKey] at other
    contradiction
  rw [get?_rechained]
  by_cases known : key ∈ value.optional.keys
  · rw [if_pos ⟨stays, known⟩]
  · rw [if_neg fun both => known both.2, if_neg fun added => notAdded added.1,
      Table.get?_eq_none_iff.2 known]

/-- The chains afterwards are the given ones and those that are required. -/
theorem mem_chains_rechained {chain : Chain.Id} :
    chain ∈ (value.rechained chains).chains ↔
      chain ∈ chains ∨ ∃ key ∈ value.required.keys, Scope.chainOfKey? key = some chain := by
  simp only [mem_chains_iff_hasScope, HasScope, required_rechained, mem_keys_rechained]
  constructor
  · rintro ⟨key, inRequired | ⟨stays, -⟩ | ⟨added, -⟩, reads⟩
    · exact .inr ⟨key, inRequired, reads⟩
    · exact .inl (staysFor_iff.1 stays chain reads)
    · obtain ⟨named, member, rfl⟩ := List.mem_map.1 added
      rw [chainOfKey?_chainKey] at reads
      cases reads
      exact .inl member
  · rintro (member | ⟨key, inRequired, reads⟩)
    · have added : chainKey chain ∈ chains.map chainKey := List.mem_map_of_mem member
      by_cases known : chainKey chain ∈ value.required.keys
      · exact ⟨chainKey chain, .inl known, chainOfKey?_chainKey chain⟩
      · exact ⟨chainKey chain, .inr (.inr ⟨added, known⟩), chainOfKey?_chainKey chain⟩
    · exact ⟨key, .inl inRequired, reads⟩

/-- Only which chains are given matters, not in which order or how often. -/
theorem rechained_congr {others : List Chain.Id} (same : ∀ chain, chain ∈ others ↔ chain ∈ chains) :
    value.rechained others = value.rechained chains := by
  have stays : staysFor others = staysFor chains := by
    funext key
    refine Bool.eq_iff_iff.2 ?_
    simp only [staysFor_iff, same]
  have added : ∀ key, key ∈ others.map chainKey ↔ key ∈ chains.map chainKey := by
    intro key
    simp only [List.mem_map, same]
  have optional : (value.rechained others).optional = (value.rechained chains).optional := by
    apply Table.ext_get?
    intro key
    simp only [get?_rechained, stays, added]
  refine ext_parts ?_ optional ?_ ?_
  · rw [required_rechained, required_rechained]
  · rw [multichain_rechained, multichain_rechained]
  · rw [session_rechained, session_rechained]

/-- Where every optional scope stays and every chain has a scope there is nothing to do. -/
theorem rechained_of_settled (stays : ∀ key ∈ value.optional.keys, staysFor chains key = true)
    (present : ∀ chain ∈ chains, value.HasScope (chainKey chain)) :
    value.rechained chains = value := by
  have optional : (value.rechained chains).optional = value.optional := by
    apply Table.ext_get?
    intro key
    rw [get?_rechained]
    by_cases known : key ∈ value.optional.keys
    · rw [if_pos ⟨stays key known, known⟩]
    · have settled : ¬ (key ∈ chains.map chainKey ∧ key ∉ value.required.keys) := by
        rintro ⟨added, missing⟩
        obtain ⟨chain, member, rfl⟩ := List.mem_map.1 added
        rcases present chain member with inRequired | inOptional
        · exact missing inRequired
        · exact known inOptional
      rw [if_neg fun both => known both.2, if_neg settled, Table.get?_eq_none_iff.2 known]
  exact ext_parts (required_rechained value chains) optional (multichain_rechained value chains)
    (session_rechained value chains)

/-! ## Listing the accounts -/

/-- Setting the chains fails if one of the ids cannot be read. -/
theorem withChains_eq_error_iff {ids : List String} :
    (∃ cause, value.withChains ids = .error cause) ↔
      ∃ id ∈ ids, ∃ cause, Chain.Id.ofHex id = .error cause := by
  rw [← exists_mapM_eq_error_iff, withChains]
  refine exists_congr fun cause => ?_
  rw [bind_eq_error_iff]
  refine or_iff_left ?_
  rintro ⟨chains, -, impossible⟩
  contradiction

/-- Setting the chains succeeds with the two steps for the chains that are read. -/
theorem withChains_eq_ok_iff {ids : List String} {changed : Authorization} :
    value.withChains ids = .ok changed ↔
      ∃ chains, ids.mapM Chain.Id.ofHex = .ok chains ∧
        (value.rechained chains).withAccounts value.ethereumAccounts = changed := by
  rw [withChains, bind_eq_ok_iff]
  simp only [Except.ok.injEq]
  rfl

/-- What becomes of an authorization when its chains are set to those that ids name. -/
structure ChainsSet (value : Authorization) (ids : List String) (changed : Authorization) :
    Prop where
  /-- The required keys are the former ones. -/
  requiredKeys : changed.required.keys = value.required.keys
  /-- The optional keys are the former ones of no chain, the former ones of chains that are named,
  and the keys of the chains that are named and not required. -/
  optionalKeys : ∀ key, key ∈ changed.optional.keys ↔
    (key ∈ value.optional.keys ∧ ∀ chain, Scope.parse? key ≠ some (.eip155 chain)) ∨
      (key ∈ value.optional.keys ∧
        ∃ chain, Named ids chain ∧ Scope.parse? key = some (.eip155 chain)) ∨
      ∃ chain, Named ids chain ∧ key = chainKey chain ∧ key ∉ value.required.keys
  /-- The scopes of other families are the former ones. -/
  otherScopes : ∀ key, Scope.isEthereumKey key = false →
    changed.required.get? key = value.required.get? key ∧
      changed.optional.get? key = value.optional.get? key
  /-- The interface of the grant is the former one. -/
  multichain : changed.multichain = value.multichain
  /-- The session properties are the former ones. -/
  session : changed.session = value.session
  /-- The chain ids that are read ascend. -/
  ascending : AscendingIds changed.chainIds
  /-- They are those of the chains that are named or required. -/
  chainIds : ∀ id, id ∈ changed.chainIds ↔ ∃ chain, chain.toHex = id ∧
    (Named ids chain ∨ ∃ key ∈ value.required.keys, Scope.parse? key = some (.eip155 chain))
  /-- The accounts that are read are the former ones, as long as there is a scope for them. -/
  accounts : changed.ethereumAccounts =
    if changed.hasEthereumScope then value.ethereumAccounts else []

/-- A chain is named if it is read from one of the ids. -/
theorem named_iff_mem {ids : List String} (read : ids.mapM Chain.Id.ofHex = .ok chains)
    {chain : Chain.Id} : Named ids chain ↔ chain ∈ chains :=
  (mem_iff_of_mapM read).symm

/-- The two steps make of an authorization what is said. -/
theorem chainsSet_of_mapM {ids : List String} (read : ids.mapM Chain.Id.ofHex = .ok chains) :
    ChainsSet value ids ((value.rechained chains).withAccounts value.ethereumAccounts) where
  requiredKeys := by
    change (listUnder _ _).keys = _
    rw [keys_listUnder, required_rechained]
  optionalKeys key := by
    change key ∈ (listUnder _ _).keys ↔ _
    simp only [keys_listUnder, mem_keys_rechained, staysFor_iff_or, named_iff_mem read,
      List.mem_map]
    constructor
    · rintro (⟨chainless | ⟨chain, member, reads⟩, known⟩ | ⟨⟨chain, member, rfl⟩, missing⟩)
      · exact .inl ⟨known, chainless⟩
      · exact .inr (.inl ⟨known, chain, member, reads⟩)
      · exact .inr (.inr ⟨chain, member, rfl, missing⟩)
    · rintro (⟨known, chainless⟩ | ⟨known, chain, member, reads⟩ | ⟨chain, member, rfl, missing⟩)
      · exact .inl ⟨.inl chainless, known⟩
      · exact .inl ⟨.inr ⟨chain, member, reads⟩, known⟩
      · exact .inr ⟨⟨chain, member, rfl⟩, missing⟩
  otherScopes key other := by
    constructor
    · change (listUnder _ _).get? key = _
      rw [get?_listUnder_of_other other, required_rechained]
    · change (listUnder _ _).get? key = _
      rw [get?_listUnder_of_other other, get?_rechained_of_other other]
  multichain := multichain_rechained value chains
  session := session_rechained value chains
  ascending := ascendingIds_chainIds _
  chainIds id := by
    simp only [mem_chainIds, chains_withAccounts, mem_chains_rechained, named_iff_mem read,
      Scope.chainOfKey?_eq_some_iff]
    exact exists_congr fun chain => and_comm
  accounts := by
    rw [ethereumAccounts_withAccounts_ethereumAccounts, hasEthereumScope_withAccounts]

/-- Setting the same chains again changes nothing. -/
theorem rechained_withAccounts_again (value : Authorization) (chains : List Chain.Id) :
    let changed := (value.rechained chains).withAccounts value.ethereumAccounts
    (changed.rechained chains).withAccounts changed.ethereumAccounts = changed := by
  intro changed
  have keys : ∀ key, key ∈ changed.optional.keys ↔
      key ∈ (value.rechained chains).optional.keys := by
    intro key
    change key ∈ (listUnder _ _).keys ↔ _
    rw [keys_listUnder]
  have stays : ∀ key ∈ changed.optional.keys, staysFor chains key = true := by
    intro key known
    rcases mem_keys_rechained.1 ((keys key).1 known) with ⟨stays, -⟩ | ⟨added, -⟩
    · exact stays
    · obtain ⟨chain, member, rfl⟩ := List.mem_map.1 added
      exact staysFor_iff_or.2 (.inr ⟨chain, member, Scope.parse?_eip155 chain⟩)
  have present : ∀ chain ∈ chains, changed.HasScope (chainKey chain) := by
    intro chain member
    have added : chainKey chain ∈ chains.map chainKey := List.mem_map_of_mem member
    by_cases known : chainKey chain ∈ value.required.keys
    · refine hasScope_withAccounts.2 (.inl ?_)
      rw [required_rechained]
      exact known
    · exact hasScope_withAccounts.2 (.inr (mem_keys_rechained.2 (.inr ⟨added, known⟩)))
  have accounts : changed.ethereumAccounts =
      if (value.rechained chains).hasEthereumScope then value.ethereumAccounts else [] :=
    ethereumAccounts_withAccounts_ethereumAccounts value (value.rechained chains)
  rw [rechained_of_settled stays present, accounts]
  -- Where no scope of Ethereum is left no account is read, but none is listed then either.
  by_cases remains : (value.rechained chains).hasEthereumScope = true
  · rw [if_pos remains]
    exact withAccounts_withAccounts _ _ _
  · have gone : changed.hasEthereumScope = false := by
      rw [hasEthereumScope_withAccounts]
      exact Bool.eq_false_iff.2 remains
    exact withAccounts_of_no_ethereum gone _

/-- Setting the chains fails exactly if one of the ids cannot be read. Otherwise the scopes of
chains are those that are named and those that are required, nothing outside of Ethereum changes,
and the accounts that are read are the former ones as long as there is a scope for them. What
results depends only on which chains are named, and setting them again changes nothing. -/
theorem chains_set_exactly (value : Authorization) (ids : List String) :
    ((∃ cause, value.withChains ids = .error cause) ↔
        ∃ id ∈ ids, ∃ cause, Chain.Id.ofHex id = .error cause) ∧
      ∀ changed, value.withChains ids = .ok changed →
        ChainsSet value ids changed ∧
          (∀ others, (∀ id ∈ others, ∃ chain, Chain.Id.ofHex id = .ok chain) →
            (∀ chain, Named others chain ↔ Named ids chain) →
              value.withChains others = .ok changed) ∧
          changed.withChains ids = .ok changed := by
  refine ⟨withChains_eq_error_iff, fun changed succeeded => ?_⟩
  obtain ⟨chains, read, rfl⟩ := withChains_eq_ok_iff.1 succeeded
  refine ⟨chainsSet_of_mapM read, fun others readable same => ?_, ?_⟩
  · obtain ⟨otherChains, readOthers⟩ := exists_mapM_eq_ok_iff.2 readable
    have members : ∀ chain, chain ∈ otherChains ↔ chain ∈ chains := by
      intro chain
      rw [mem_iff_of_mapM readOthers, mem_iff_of_mapM read]
      exact same chain
    refine withChains_eq_ok_iff.2 ⟨otherChains, readOthers, ?_⟩
    rw [rechained_congr members]
  · exact withChains_eq_ok_iff.2 ⟨chains, read, rechained_withAccounts_again value chains⟩

/-- One chain is named twice in different letters and is required, another one is new: the chain
that is not named goes, and the order and spelling of the ids make no difference. -/
theorem chains_set_exactly_of_respelled :
    let value : Authorization := { Authorization.empty with
      required := Table.empty.insert "eip155:10" []
      optional := (Table.empty.insert "eip155:1" ["eip155:1:0xaa"]).insert "solana" ["other"] }
    let changed : Authorization := { Authorization.empty with
      required := Table.empty.insert "eip155:10" ["eip155:10:0xaa"]
      optional := (Table.empty.insert "eip155:137" ["eip155:137:0xaa"]).insert "solana" ["other"] }
    let ids := ["0xA", "0x89", "0xa"]
    value.withChains ids = .ok changed ∧ ChainsSet value ids changed ∧
      value.withChains ["0x89", "0xa"] = .ok changed ∧ changed.withChains ids = .ok changed := by
  intro value changed ids
  have read : ids.mapM Chain.Id.ofHex = .ok [10, 137, 10] := rfl
  have others : ["0x89", "0xa"].mapM Chain.Id.ofHex = .ok [137, 10] := rfl
  have succeeded : value.withChains ids = .ok changed :=
    withChains_eq_ok_iff.2 ⟨_, read, by decide +kernel⟩
  have same : ∀ chain, Named ["0x89", "0xa"] chain ↔ Named ids chain := by
    intro chain
    rw [named_iff_mem others, named_iff_mem read]
    simp [or_comm]
  obtain ⟨-, whole⟩ := chains_set_exactly value ids
  obtain ⟨set, respelled, again⟩ := whole changed succeeded
  exact ⟨succeeded, set, respelled _ (exists_mapM_eq_ok_iff.1 ⟨_, others⟩) same, again⟩

end WalletCore.Authorization
