import WalletCore.Proofs.Authorization.Chains
import WalletCore.Proofs.Permission.Validity

/-! # What is built and what is accepted

An authorization is built from texts that nobody has looked at but for the chain ids, and the check
of a caveat reads these texts again. The two agree: the addresses stand under the key of the wallet
whatever the chains are, so the check refuses a text that is no address or none that the wallet
knows, and every chain has its key, so the check looks the chain up (`build_agrees_with_check`).
-/
namespace WalletCore.Permission

open Authorization (Built accountUnder builtKeys chainKey)

variable {lookups : WalletLookups}

/-- A wallet accepts texts under a key of Ethereum if they are addresses that it knows. -/
theorem AcceptsScope.knownAddress {key address : String} {addresses : List String}
    (accepts : AcceptsScope lookups key (addresses.map (accountUnder key)))
    (ethereumKey : Chain.Scope.isEthereumKey key = true) (member : address ∈ addresses) :
    KnownAddress lookups address := by
  obtain ⟨scope, reads, ethereum⟩ := Chain.Scope.isEthereumKey_iff.1 ethereumKey
  obtain ⟨found, readsKey, accounts, -⟩ := accepts
  cases (Chain.Scope.parse_eq_ok_iff.1 readsKey).symm.trans reads
  obtain ⟨parsed, readsAccount, -, known⟩ := accounts _ (List.mem_map_of_mem member)
  obtain ⟨wellFormed, rfl⟩ := (Chain.Account.parse_underKey_eq_ok_iff reads ethereum).1 readsAccount
  exact ⟨wellFormed, known ethereum⟩

/-- A wallet accepts the scope of a chain if it has a network client for the chain. -/
theorem AcceptsScope.networkClient {chain : Chain.Id} {accounts : List String}
    (accepts : AcceptsScope lookups (chainKey chain) accounts) :
    ∃ client, lookups.networkClient chain.toHex = .ok client := by
  obtain ⟨scope, readsKey, -, chains⟩ := accepts
  cases (Chain.Scope.parse_eq_ok_iff.1 readsKey).symm.trans (Chain.Scope.parse?_eip155 chain)
  exact chains chain rfl

/-- What was built has a scope, if only that of the wallet. -/
theorem scopes_ne_nil_of_built {value : Authorization} {addresses : List String}
    {chains : List Chain.Id} (built : Built value addresses chains) : value.scopes ≠ [] :=
  Authorization.scopes_ne_nil_iff.2 ⟨_, .inr (built.mem_keys.2 List.mem_cons_self)⟩

/-- Under each of the keys that are built all addresses are listed. -/
theorem get?_of_built {value : Authorization} {addresses : List String} {chains : List Chain.Id}
    {key : String} (built : Built value addresses chains) (member : key ∈ builtKeys chains) :
    value.optional.get? key = some (addresses.map (accountUnder key)) :=
  (built.optional key).trans (if_pos member)

/-- What was built is acceptable only if the wallet knows every address and every chain. -/
theorem Admissible.known_of_built {value : Authorization} {addresses : List String}
    {chains : List Chain.Id} (admissible : Admissible lookups value)
    (built : Built value addresses chains) :
    (∀ address ∈ addresses, KnownAddress lookups address) ∧
      ∀ chain ∈ chains, ∃ client, lookups.networkClient chain.toHex = .ok client := by
  constructor
  · intro address member
    have wallet : Chain.Scope.walletEip155.toText ∈ builtKeys chains := List.mem_cons_self
    have accepts := admissible.optional _ _ (get?_of_built built wallet)
    exact accepts.knownAddress (Authorization.isEthereumKey_of_mem_builtKeys wallet) member
  · intro chain member
    have key : chainKey chain ∈ builtKeys chains :=
      List.mem_cons_of_mem _ (List.mem_map_of_mem member)
    exact (admissible.optional _ _ (get?_of_built built key)).networkClient

/-- Building fails exactly if one of the chain ids cannot be read. -/
theorem build_eq_error_iff {addresses ids : List String} :
    (∃ cause, Authorization.build addresses ids = .error cause) ↔
      ∃ id ∈ ids, ∃ cause, Chain.Id.ofHex id = .error cause := by
  constructor
  · rintro ⟨cause, failed⟩
    obtain ⟨id, member, reads⟩ := Authorization.build_eq_error failed
    exact ⟨id, member, cause, reads⟩
  · intro unreadable
    obtain ⟨cause, failed⟩ := Authorization.withChains_eq_error_iff.2 unreadable
    exact ⟨cause, bind_eq_error_iff.2 (.inl failed)⟩

/-- Building and checking agree. Building fails exactly if one of the chain ids cannot be read; what
is built otherwise lists every address under the key of the wallet and under those of the chains,
and it is accepted exactly if the wallet knows every address and has a network client for every
chain. -/
theorem build_agrees_with_check (lookups : WalletLookups) (addresses ids : List String) :
    ((∃ cause, Authorization.build addresses ids = .error cause) ↔
        ∃ id ∈ ids, ∃ cause, Chain.Id.ofHex id = .error cause) ∧
      ∀ value, Authorization.build addresses ids = .ok value →
        ∃ chains, ids.mapM Chain.Id.ofHex = .ok chains ∧ Built value addresses chains ∧
          (Accepted lookups value ↔ (∀ address ∈ addresses, KnownAddress lookups address) ∧
            ∀ chain ∈ chains, ∃ client, lookups.networkClient chain.toHex = .ok client) := by
  refine ⟨build_eq_error_iff, fun value succeeded => ?_⟩
  obtain ⟨chains, read, built⟩ := Authorization.build_eq_ok succeeded
  refine ⟨chains, read, built, ?_⟩
  rw [accepted_iff]
  constructor
  · rintro ⟨-, admissible⟩
    exact admissible.known_of_built built
  · rintro ⟨knownAddresses, networks⟩
    have knownChains : KnownChains lookups ids := fun id member chain reads =>
      networks chain ((mem_iff_of_mapM read).2 ⟨id, member, reads⟩)
    exact ⟨scopes_ne_nil_of_built built, .build knownAddresses knownChains succeeded⟩

/-- A chain that is named twice, in different letters, and an address that the wallet has in other
letters: what is built is accepted as it stands, and no longer with a text that is no address. -/
theorem build_agrees_with_check_of_respelled :
    let lookups : WalletLookups := ⟨[⟨"main", "0xAB"⟩], fun chain =>
      if chain = "0xa" then .ok "optimism" else .error "unknown"⟩
    let ids := ["0xA", "0xa"]
    (∃ value, Authorization.build ["0xab"] ids = .ok value ∧ Accepted lookups value) ∧
      ∃ value, Authorization.build ["0xab", ""] ids = .ok value ∧ ¬ Accepted lookups value := by
  intro lookups ids
  have read : ids.mapM Chain.Id.ofHex = .ok [10, 10] := rfl
  have readable : ∀ addresses, ∃ value, Authorization.build addresses ids = .ok value := by
    intro addresses
    cases outcome : Authorization.build addresses ids with
    | ok value => exact ⟨value, rfl⟩
    | error cause =>
      obtain ⟨failing, -⟩ := build_agrees_with_check lookups addresses ids
      obtain ⟨id, member, other, unread⟩ := failing.1 ⟨cause, outcome⟩
      obtain ⟨chain, reads⟩ := exists_mapM_eq_ok_iff.1 ⟨_, read⟩ id member
      rw [reads] at unread
      contradiction
  have client : ∀ chain ∈ [(10 : Chain.Id), 10], ∃ client,
      lookups.networkClient chain.toHex = .ok client := by
    intro chain member
    have same : chain = 10 := by simpa using member
    have hex : Chain.Id.toHex 10 = "0xa" := by decide +kernel
    rw [same]
    exact ⟨"optimism", by simp [lookups, hex]⟩
  constructor
  · obtain ⟨value, succeeded⟩ := readable ["0xab"]
    obtain ⟨-, whole⟩ := build_agrees_with_check lookups ["0xab"] ids
    obtain ⟨chains, readAgain, -, agree⟩ := whole value succeeded
    cases read.symm.trans readAgain
    have listed : (⟨"main", "0xAB"⟩ : InternalAccount) ∈ lookups.accounts := List.mem_cons_self
    have known : KnownAddress lookups "0xab" := .of_letters (by decide) listed (by decide)
    exact ⟨value, succeeded, agree.2 ⟨List.forall_mem_singleton.2 known, client⟩⟩
  · obtain ⟨value, succeeded⟩ := readable ["0xab", ""]
    obtain ⟨-, whole⟩ := build_agrees_with_check lookups ["0xab", ""] ids
    obtain ⟨chains, readAgain, -, agree⟩ := whole value succeeded
    refine ⟨value, succeeded, fun accepted => ?_⟩
    have known := (agree.1 accepted).1 "" (by simp)
    exact absurd known.wellFormed (by decide)

end WalletCore.Permission
