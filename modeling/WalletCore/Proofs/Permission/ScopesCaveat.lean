import WalletCore.Permission.Registry
import WalletCore.Proofs.Authorization.Views
import WalletCore.Proofs.Chain.Scope
import WalletCore.Proofs.Except
import WalletCore.Proofs.Permission.RequestReports

/-! # What the caveat of authorizations accepts

The check of the caveat that holds an authorization goes through three steps, of which the last two
look at views of the authorization only. This module says what each step accepts, and that together
they accept just the authorizations whose accounts stand under their own scopes and whose addresses
and chains the wallet knows.
-/
namespace WalletCore.Permission

/-- Whether an account is well formed and belongs to a scope. -/
def BelongsTo (scope : Chain.Scope) (account : String) : Prop :=
  ∃ parsed, Chain.Account.parse account = .ok parsed ∧ parsed.scope = scope

/-- The placement of an account is accepted if it belongs to the scope. -/
theorem checkPlacement_eq_ok_iff {key account : String} {scope : Chain.Scope} :
    checkPlacement key scope account = .ok () ↔ BelongsTo scope account := by
  rw [checkPlacement, bind_eq_ok_iff, BelongsTo]
  constructor
  · rintro ⟨parsed, reads, placed⟩
    split at placed
    · rename_i same
      exact ⟨parsed, reads, same⟩
    · contradiction
  · rintro ⟨parsed, reads, same⟩
    exact ⟨parsed, reads, if_pos same⟩

/-- A scope is accepted if its key is one and all its accounts belong to it. -/
theorem checkScope_eq_ok_iff {entry : String × List String} :
    checkScope entry = .ok () ↔
      ∃ scope, Chain.Scope.parse entry.1 = .ok scope ∧
        ∀ account ∈ entry.2, BelongsTo scope account := by
  rw [checkScope, bind_eq_ok_iff]
  simp only [forM_eq_ok_iff, checkPlacement_eq_ok_iff]

/-- Addresses are accepted if each of them is, but for the case of letters, that of an account of
the wallet. -/
theorem checkAccounts_eq_ok_iff {internal : List InternalAccount} {addresses : List String}
    (nonempty : addresses ≠ []) :
    Id.run (checkAccounts (pure internal) (.ofStrings addresses)) = .ok () ↔
      ∀ address ∈ addresses, ∃ account ∈ internal,
        account.address.toLower = address.toLower := by
  have lowered : (∀ address ∈ addresses, ∃ account ∈ internal,
      account.address.toLower = address.toLower) ↔
      ∀ address ∈ addresses, Manages internal address := by
    simp only [Manages, ← sameAddress_iff, sameAddress, decide_eq_true_iff]
  rw [checkAccounts_ofStrings _ nonempty, pure_bind, Id.run_pure, checkAddresses_eq_iff, lowered]
  constructor
  · intro reports
    cases reports with
    | known managed => exact managed
  · exact .known

/-- Look-ups succeed if each of them does. -/
theorem lookUpAll_eq_ok_iff {networkClient : String → Except String String}
    {chainIds : List String} :
    Id.run (lookUpAll (pure <| networkClient ·) chainIds) = .ok () ↔
      ∀ chainId ∈ chainIds, ∃ client, networkClient chainId = .ok client := by
  induction chainIds with
  | nil => exact iff_of_true rfl (List.forall_mem_nil _)
  | cons chainId rest ih =>
    rw [lookUpAll, List.forall_mem_cons, pure_bind]
    cases networkClient chainId with
    | error cause =>
      refine iff_of_false (fun accepted => by contradiction) fun found => ?_
      obtain ⟨⟨client, same⟩, -⟩ := found
      contradiction
    | ok client =>
      rw [← ih]
      exact (and_iff_right ⟨client, rfl⟩).symm

/-- Chain ids are accepted if each of them has a network client. -/
theorem checkNetworks_eq_ok_iff {networkClient : String → Except String String}
    {chainIds : List String} (nonempty : chainIds ≠ []) :
    Id.run (checkNetworks (pure <| networkClient ·) (.ofStrings chainIds)) = .ok () ↔
      ∀ chainId ∈ chainIds, ∃ client, networkClient chainId = .ok client := by
  have texts : List.Forall₂ LookedUpAs (chainIds.map .string) chainIds := by
    have each : chainIdOfItem ∘ Json.string = id := rfl
    rw [forall₂_lookedUpAs_iff, List.map_map, each, List.map_id]
  have lists : Json.ofStrings chainIds = .array (chainIds.map .string) := rfl
  rw [lists, checkNetworks_array _ (mt List.map_eq_nil_iff.1 nonempty) texts, lookUpAll_eq_ok_iff]

/-- The step for the Ethereum accounts of an authorization, which is left out if there are none,
accepts just the addresses that the wallet knows. -/
theorem accountsStep_eq_ok_iff {internal : List InternalAccount} {value : Authorization} :
    (¬ value.ethereumAccounts.isEmpty = true →
      Id.run (checkAccounts (pure internal) (.ofStrings value.ethereumAccounts)) = .ok ()) ↔
      ∀ address ∈ value.ethereumAddresses, ∃ account ∈ internal,
        account.address.toLower = address.toLower := by
  rw [← value.forall_ethereumAccounts fun folded => ∃ account ∈ internal,
    account.address.toLower = folded, List.isEmpty_iff]
  by_cases empty : value.ethereumAccounts = []
  · rw [empty]
    exact iff_of_true (absurd rfl) fun _ member => absurd member List.not_mem_nil
  · rw [checkAccounts_eq_ok_iff empty]
    exact imp_iff_right empty

/-- The step for the Ethereum chains of an authorization, which is left out if there are none,
accepts just the chains that have a network client. -/
theorem networksStep_eq_ok_iff {networkClient : String → Except String String}
    {value : Authorization} :
    (¬ value.chainIds.isEmpty = true →
      Id.run (checkNetworks (pure <| networkClient ·) (.ofStrings value.chainIds)) = .ok ()) ↔
      ∀ chain ∈ value.chains, ∃ client, networkClient chain.toHex = .ok client := by
  have mapped : (∀ chainId ∈ value.chainIds, ∃ client, networkClient chainId = .ok client) ↔
      ∀ chain ∈ value.chains, ∃ client, networkClient chain.toHex = .ok client :=
    List.forall_mem_map
  rw [← mapped, List.isEmpty_iff]
  by_cases empty : value.chainIds = []
  · rw [empty]
    exact iff_of_true (absurd rfl) fun _ member => absurd member List.not_mem_nil
  · rw [checkNetworks_eq_ok_iff empty]
    exact imp_iff_right empty

/-- An authorization is accepted if it has a scope, its accounts belong to their scopes, and the
wallet knows its Ethereum accounts and its Ethereum chains. -/
theorem checkAuthorization_eq_ok_iff {lookups : WalletLookups} {value : Authorization} :
    checkAuthorization lookups value = .ok () ↔
      value.scopes ≠ [] ∧ (∀ entry ∈ value.scopes, checkScope entry = .ok ()) ∧
        (∀ address ∈ value.ethereumAddresses, ∃ account ∈ lookups.accounts,
          account.address.toLower = address.toLower) ∧
        ∀ chain ∈ value.chains, ∃ client, lookups.networkClient chain.toHex = .ok client := by
  have nonEmpty : ¬ value.isEmpty = true ↔ value.scopes ≠ [] := by
    simp [Authorization.isEmpty, Authorization.scopes, Table.isEmpty]
  unfold checkAuthorization
  dsimp only
  rw [ite_bind_eq_ok_iff, error_eq_ok_iff, nonEmpty, bind_eq_ok_iff]
  simp only [ite_bind_eq_ok_iff, ite_eq_ok_iff, accountsStep_eq_ok_iff, networksStep_eq_ok_iff,
    ← forM_eq_ok_iff]
  constructor
  · rintro ⟨nonempty, ⟨⟩, placed, known⟩
    exact ⟨nonempty, placed, known⟩
  · rintro ⟨nonempty, placed, known⟩
    exact ⟨nonempty, (), placed, known⟩

/-- What the scope of a key and the accounts under it must be for the wallet to accept them. -/
def AcceptsScope (lookups : WalletLookups) (key : String) (accounts : List String) : Prop :=
  ∃ scope, Chain.Scope.parse key = .ok scope ∧
    (∀ account ∈ accounts, ∃ parsed, Chain.Account.parse account = .ok parsed ∧
      parsed.scope = scope ∧
      (scope.isEthereum = true → ∃ internal ∈ lookups.accounts,
        internal.address.toLower = parsed.address.toLower)) ∧
    ∀ chain, scope = .eip155 chain →
      ∃ client, lookups.networkClient chain.toHex = .ok client

/-- The scopes of an authorization pass every step of the check if each of them is accepted. -/
theorem forall_acceptsScope_iff {lookups : WalletLookups} {value : Authorization} :
    ((∀ entry ∈ value.scopes, checkScope entry = .ok ()) ∧
        (∀ address ∈ value.ethereumAddresses, ∃ account ∈ lookups.accounts,
          account.address.toLower = address.toLower) ∧
        ∀ chain ∈ value.chains, ∃ client, lookups.networkClient chain.toHex = .ok client) ↔
      ∀ entry ∈ value.scopes, AcceptsScope lookups entry.1 entry.2 := by
  constructor
  · rintro ⟨placed, addresses, chains⟩ entry member
    obtain ⟨scope, reads, belong⟩ := checkScope_eq_ok_iff.1 (placed entry member)
    have key := Chain.Scope.parse_eq_ok_iff.1 reads
    refine ⟨scope, reads, ?_, ?_⟩
    · intro account stands
      obtain ⟨parsed, readsAccount, same⟩ := belong account stands
      refine ⟨parsed, readsAccount, same, fun ethereum => ?_⟩
      apply addresses parsed.address
      have ethereumKey := Chain.Scope.isEthereumKey_iff.2 ⟨scope, key, ethereum⟩
      exact Authorization.mem_ethereumAddresses.2
        ⟨entry, member, ethereumKey, account, stands, parsed, readsAccount, rfl⟩
    · intro chain same
      rw [same] at key
      have chainKey := Chain.Scope.chainOfKey?_eq_some_iff.2 key
      exact chains chain (Authorization.mem_chains.2 ⟨entry, member, chainKey⟩)
  · intro accepted
    refine ⟨fun entry member => ?_, fun address member => ?_, fun chain member => ?_⟩
    · obtain ⟨scope, reads, accounts, -⟩ := accepted entry member
      refine checkScope_eq_ok_iff.2 ⟨scope, reads, fun account stands => ?_⟩
      obtain ⟨parsed, readsAccount, same, -⟩ := accounts account stands
      exact ⟨parsed, readsAccount, same⟩
    · obtain ⟨entry, inScopes, ethereumKey, account, stands, parsed, readsAccount, rfl⟩ :=
        Authorization.mem_ethereumAddresses.1 member
      obtain ⟨scope, reads, accounts, -⟩ := accepted entry inScopes
      obtain ⟨found, key, ethereum⟩ := Chain.Scope.isEthereumKey_iff.1 ethereumKey
      obtain ⟨other, readsOther, -, known⟩ := accounts account stands
      -- The key reads as one scope, and the account as one account.
      rw [Chain.Scope.parse_eq_ok_iff.1 reads] at key
      rw [readsAccount] at readsOther
      cases key
      cases readsOther
      exact known ethereum
    · obtain ⟨entry, inScopes, chainKey⟩ := Authorization.mem_chains.1 member
      obtain ⟨scope, reads, -, networks⟩ := accepted entry inScopes
      have key := Chain.Scope.chainOfKey?_eq_some_iff.1 chainKey
      rw [Chain.Scope.parse_eq_ok_iff.1 reads] at key
      exact networks chain (Option.some.inj key)

/-- The caveat that holds an authorization is accepted exactly if its type is right, its value is an
authorization with a scope, every account in it belongs to the scope that it stands under, and the
wallet knows every Ethereum address but for the case of its letters and every Ethereum chain. -/
theorem validate_authorizedScopes_iff (lookups : WalletLookups) (caveat : Caveat) :
    (CaveatSpecification.authorizedScopes lookups).validate caveat = .ok () ↔
      caveat.type = scopesCaveat ∧
        ∃ value, Authorization.decoder.ofJson caveat.value = .ok value ∧ value.scopes ≠ [] ∧
          ∀ key accounts, (key, accounts) ∈ value.scopes → AcceptsScope lookups key accounts := by
  change checkScopesCaveat lookups caveat = .ok () ↔ _
  unfold checkScopesCaveat
  dsimp only
  rw [ite_bind_eq_ok_iff, error_eq_ok_iff, Decidable.not_not, bind_eq_ok_iff]
  simp only [authorizationOfValue, mapError_eq_ok_iff, checkAuthorization_eq_ok_iff,
    forall_acceptsScope_iff]
  simp only [Prod.forall]

end WalletCore.Permission
