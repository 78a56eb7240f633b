import WalletCore.Proofs.Authorization.Build
import WalletCore.Proofs.Authorization.Format
import WalletCore.Proofs.Chain.Account
import WalletCore.Proofs.Permission.ScopesCaveat

/-! # Changes keep an authorization acceptable

What a wallet asks of an authorization, apart from having a scope at all, it asks of each scope on
its own: the key is a scope, the accounts belong to it, and the wallet knows their addresses and the
chain (`Admissible`). Every change of an authorization keeps this as long as it brings in only what
the wallet knows. The accounts that a change of the chains copies from one scope to another were
known where they stood, and known addresses are known under every key of Ethereum.

An admissible authorization has no scope or is accepted (`Admissible.empty_or_accepted`), so this is
the invariant of all changes that start from the authorization of nothing.
-/
namespace WalletCore.Permission

/-- Whether the wallet accepts every scope of a table. -/
def AcceptsScopes (lookups : WalletLookups) (scopes : Table (List String)) : Prop :=
  ∀ key accounts, scopes.get? key = some accounts → AcceptsScope lookups key accounts

/-- Whether the wallet accepts every scope of an authorization. -/
structure Admissible (lookups : WalletLookups) (value : Authorization) : Prop where
  /-- The required scopes are accepted. -/
  required : AcceptsScopes lookups value.required
  /-- The optional scopes are accepted. -/
  optional : AcceptsScopes lookups value.optional

/-- Whether the caveat that holds an authorization is accepted. -/
def Accepted (lookups : WalletLookups) (value : Authorization) : Prop :=
  (CaveatSpecification.authorizedScopes lookups).validate ⟨scopesCaveat, value.toJson⟩ = .ok ()

/-- Whether a text is an address that the wallet knows, however its letters are written. -/
structure KnownAddress (lookups : WalletLookups) (address : String) : Prop where
  /-- The text is an address. -/
  wellFormed : Chain.Account.isAddress address.toList = true
  /-- The wallet has an account with this address. -/
  known : ∃ internal ∈ lookups.accounts, internal.address.toLower = address.toLower

/-- Whether the wallet has a network client for the chain of every well-formed chain id. -/
def KnownChains (lookups : WalletLookups) (ids : List String) : Prop :=
  ∀ id ∈ ids, ∀ chain, Chain.Id.ofHex id = .ok chain →
    ∃ client, lookups.networkClient chain.toHex = .ok client

variable {lookups : WalletLookups}

/-- An address is known if the wallet has it with letters of either case. -/
theorem KnownAddress.of_letters {address : String} {internal : InternalAccount}
    (wellFormed : Chain.Account.isAddress address.toList = true)
    (listed : internal ∈ lookups.accounts)
    (same : internal.address.toList.map Char.toLower = address.toList.map Char.toLower) :
    KnownAddress lookups address := by
  refine ⟨wellFormed, internal, listed, ?_⟩
  apply String.toList_inj.1
  show (String.map Char.toLower internal.address).toList = (String.map Char.toLower address).toList
  rw [String.toList_map, String.toList_map, same]

/-- A wallet with a network client for the chain of an id knows the id. -/
theorem knownChains_singleton {id client : String} {chain : Chain.Id}
    (reads : Chain.Id.ofHex id = .ok chain)
    (known : lookups.networkClient chain.toHex = .ok client) : KnownChains lookups [id] := by
  refine List.forall_mem_singleton.2 fun other readsOther => ?_
  rw [reads] at readsOther
  cases readsOther
  exact ⟨client, known⟩

/-! ## Scopes -/

/-- The accounts of a scope may be exchanged for accounts that two accepted lists have between
them. -/
theorem AcceptsScope.of_union {key : String} {first second accounts : List String}
    (acceptsFirst : AcceptsScope lookups key first)
    (acceptsSecond : AcceptsScope lookups key second)
    (within : ∀ account ∈ accounts, account ∈ first ∨ account ∈ second) :
    AcceptsScope lookups key accounts := by
  obtain ⟨scope, reads, onFirst, chains⟩ := acceptsFirst
  obtain ⟨again, readsAgain, onSecond, -⟩ := acceptsSecond
  rw [reads] at readsAgain
  cases readsAgain
  refine ⟨scope, reads, fun account member => ?_, chains⟩
  rcases within account member with inFirst | inSecond
  · exact onFirst account inFirst
  · exact onSecond account inSecond

/-- Known addresses are accepted under every accepted key of Ethereum. -/
theorem AcceptsScope.accountsUnder {key : String} {accounts addresses : List String}
    (accepts : AcceptsScope lookups key accounts)
    (ethereumKey : Chain.Scope.isEthereumKey key = true)
    (known : ∀ address ∈ addresses, KnownAddress lookups address) :
    AcceptsScope lookups key (addresses.map (Authorization.accountUnder key)) := by
  obtain ⟨scope, reads, -, chains⟩ := accepts
  have asScope := Chain.Scope.parse_eq_ok_iff.1 reads
  obtain ⟨found, same, ethereum⟩ := Chain.Scope.isEthereumKey_iff.1 ethereumKey
  rw [asScope] at same
  cases same
  refine ⟨scope, reads, List.forall_mem_map.2 fun address member => ?_, chains⟩
  obtain ⟨wellFormed, internal⟩ := known address member
  have account := Chain.Account.parse_underKey asScope ethereum wellFormed
  exact ⟨⟨scope, address⟩, account, rfl, fun _ => internal⟩

/-- The scope of a chain that the wallet knows is accepted without accounts. -/
theorem acceptsScope_chainKey {chain : Chain.Id} {client : String}
    (known : lookups.networkClient chain.toHex = .ok client) :
    AcceptsScope lookups (Authorization.chainKey chain) [] := by
  have reads := Chain.Scope.parse_eq_ok_iff.2 (Chain.Scope.parse?_eip155 chain)
  refine ⟨.eip155 chain, reads, fun account member => absurd member List.not_mem_nil, ?_⟩
  intro other same
  cases same
  exact ⟨client, known⟩

/-- The scope of the wallet is accepted without accounts. -/
theorem acceptsScope_walletEip155 : AcceptsScope lookups Chain.Scope.walletEip155.toText [] := by
  have reads := Chain.Scope.parse_eq_ok_iff.2 Chain.Scope.parse?_walletEip155
  exact ⟨.walletEip155, reads, fun account member => absurd member List.not_mem_nil, nofun⟩

/-! ## Tables of scopes -/

namespace AcceptsScopes

variable {scopes : Table (List String)}

/-- There is nothing to refuse in an empty table. -/
theorem empty : AcceptsScopes lookups .empty := by
  intro key accounts found
  rw [Table.get?_empty] at found
  contradiction

/-- Scopes that are left stay accepted. -/
theorem filterKeys (accepts : AcceptsScopes lookups scopes) (keep : String → Bool) :
    AcceptsScopes lookups (scopes.filterKeys keep) := by
  intro key accounts found
  rw [Table.get?_filterKeys] at found
  split at found
  · exact accepts key accounts found
  · contradiction

/-- Known addresses may be listed under all scopes of Ethereum. -/
theorem listUnder (accepts : AcceptsScopes lookups scopes) {addresses : List String}
    (known : ∀ address ∈ addresses, KnownAddress lookups address) :
    AcceptsScopes lookups (Authorization.listUnder addresses scopes) := by
  intro key accounts found
  rw [Authorization.listUnder, Table.get?_mapEntries] at found
  obtain ⟨listed, stored, rfl⟩ := Option.map_eq_some_iff.1 found
  have accepted := accepts key listed stored
  split
  · rename_i ethereumKey
    exact accepted.accountsUnder ethereumKey known
  · exact accepted

/-- A scope that is accepted without accounts may be added. -/
theorem upsert (accepts : AcceptsScopes lookups scopes) {key : String}
    (bare : AcceptsScope lookups key []) :
    AcceptsScopes lookups (scopes.upsert key (·.getD [])) := by
  intro other accounts found
  rw [Table.get?_upsert] at found
  split at found
  · rename_i same
    cases found
    rw [same]
    cases stored : scopes.get? key with
    | none => exact bare
    | some listed => exact accepts key listed stored
  · exact accepts other accounts found

/-- The union of accepted scopes is accepted. -/
theorem merge {left right : Table (List String)} (acceptsLeft : AcceptsScopes lookups left)
    (acceptsRight : AcceptsScopes lookups right) :
    AcceptsScopes lookups (Authorization.mergeScopes left right) := by
  intro key accounts found
  rw [Authorization.get?_mergeScopes] at found
  cases more : right.get? key with
  | none =>
    rw [more] at found
    exact acceptsLeft key accounts found
  | some added =>
    rw [more] at found
    cases found
    have onRight := acceptsRight key added more
    cases former : left.get? key with
    | none =>
      refine onRight.of_union onRight fun account member => ?_
      rcases Authorization.mem_mergeAccounts.1 member with old | new
      · exact absurd old List.not_mem_nil
      · exact .inl new
    | some listed =>
      refine (acceptsLeft key listed former).of_union onRight fun account member => ?_
      exact Authorization.mem_mergeAccounts.1 member

end AcceptsScopes

/-! ## Authorizations -/

/-- The wallet accepts every scope of an authorization if it accepts each of the entries. -/
theorem admissible_iff {value : Authorization} :
    Admissible lookups value ↔
      ∀ entry ∈ value.scopes, AcceptsScope lookups entry.1 entry.2 := by
  constructor
  · rintro ⟨required, optional⟩ entry member
    rcases List.mem_append.1 member with inRequired | inOptional
    · exact required _ _ (Table.get?_eq_some_iff.2 inRequired)
    · exact optional _ _ (Table.get?_eq_some_iff.2 inOptional)
  · intro accepts
    constructor
    · intro key accounts found
      exact accepts (key, accounts) (List.mem_append_left _ (Table.get?_eq_some_iff.1 found))
    · intro key accounts found
      exact accepts (key, accounts) (List.mem_append_right _ (Table.get?_eq_some_iff.1 found))

/-- The check of a caveat whose value is decoded is the check of the authorization in it. -/
theorem validate_eq_ok_iff_of_decoded {json : Json} {value : Authorization}
    (decoded : Authorization.decoder.ofJson json = .ok value) :
    (CaveatSpecification.authorizedScopes lookups).validate ⟨scopesCaveat, json⟩ = .ok () ↔
      value.scopes ≠ [] ∧ Admissible lookups value := by
  have same : (CaveatSpecification.authorizedScopes lookups).validate ⟨scopesCaveat, json⟩ =
      checkAuthorization lookups value := by
    change checkScopesCaveat lookups ⟨scopesCaveat, json⟩ = _
    simp only [checkScopesCaveat, authorizationOfValue, decoded, ne_eq, not_true_eq_false,
      ↓reduceIte]
    rfl
  rw [same, checkAuthorization_eq_ok_iff, forall_acceptsScope_iff, admissible_iff]

/-- An authorization is accepted if it has a scope and all its scopes are. -/
theorem accepted_iff {value : Authorization} :
    Accepted lookups value ↔ value.scopes ≠ [] ∧ Admissible lookups value :=
  validate_eq_ok_iff_of_decoded (Authorization.decoder_toJson value)

/-- In whatever form an authorization was written that is accepted, the authorization is. -/
theorem accepted_of_validate {json : Json} {value : Authorization}
    (decoded : Authorization.decoder.ofJson json = .ok value)
    (accepted : (CaveatSpecification.authorizedScopes lookups).validate ⟨scopesCaveat, json⟩ =
      .ok ()) : Accepted lookups value :=
  accepted_iff.2 ((validate_eq_ok_iff_of_decoded decoded).1 accepted)

namespace Admissible

variable {value : Authorization}

/-- The authorization of nothing is admissible. -/
theorem empty : Admissible lookups .empty := ⟨.empty, .empty⟩

/-- The Ethereum accounts of an admissible authorization are known. -/
theorem knownAddresses (admissible : Admissible lookups value) :
    ∀ address ∈ value.ethereumAccounts, KnownAddress lookups address := by
  intro address member
  obtain ⟨entry, inScopes, ethereumKey, account, stands, parsed, reads, rfl⟩ :=
    Authorization.mem_ethereumAddresses.1 (mem_of_mem_firstsBy member)
  obtain ⟨scope, readsScope, accounts, -⟩ := admissible_iff.1 admissible entry inScopes
  obtain ⟨found, readsKey, ethereum⟩ := Chain.Scope.isEthereumKey_iff.1 ethereumKey
  obtain ⟨again, readsAgain, -, known⟩ := accounts account stands
  rw [Chain.Scope.parse_eq_ok_iff.1 readsScope] at readsKey
  rw [reads] at readsAgain
  cases readsKey
  cases readsAgain
  obtain ⟨-, -, -, wellFormed, -⟩ := Chain.Account.parse_eq_ok_iff.1 reads
  exact ⟨wellFormed, known ethereum⟩

/-- The accounts may be replaced by known addresses. -/
theorem withAccounts (admissible : Admissible lookups value) {addresses : List String}
    (known : ∀ address ∈ addresses, KnownAddress lookups address) :
    Admissible lookups (value.withAccounts addresses) :=
  ⟨admissible.required.listUnder known, admissible.optional.listUnder known⟩

/-- Known chains may be added. -/
theorem addChains (admissible : Admissible lookups value) {chains : List Chain.Id}
    (known : ∀ chain ∈ chains, ∃ client, lookups.networkClient chain.toHex = .ok client) :
    Admissible lookups (chains.foldl Authorization.addChain value) := by
  induction chains generalizing value with
  | nil => exact admissible
  | cons chain rest ih =>
    obtain ⟨⟨client, found⟩, others⟩ := List.forall_mem_cons.1 known
    have added : Admissible lookups (value.addChain chain) := by
      unfold Authorization.addChain
      split
      · exact admissible
      · exact ⟨admissible.required, admissible.optional.upsert (acceptsScope_chainKey found)⟩
    exact ih added others

/-- The chains may be replaced by known ones. -/
theorem withChains (admissible : Admissible lookups value) {ids : List String}
    (known : KnownChains lookups ids) {changed : Authorization}
    (succeeded : value.withChains ids = .ok changed) : Admissible lookups changed := by
  obtain ⟨chains, read, result⟩ := bind_eq_ok_iff.1 succeeded
  cases result
  have found : ∀ chain ∈ chains, ∃ client, lookups.networkClient chain.toHex = .ok client := by
    intro chain member
    obtain ⟨id, listed, reads⟩ := exists_of_mem_mapM read member
    exact known id listed chain reads
  have left : Admissible lookups (value.keepChains chains) :=
    ⟨admissible.required, admissible.optional.filterKeys _⟩
  exact (left.addChains found).withAccounts admissible.knownAddresses

/-- The scope of the wallet without accounts is admissible. -/
theorem walletOnly : Admissible lookups Authorization.walletOnly :=
  ⟨.empty, AcceptsScopes.empty.upsert acceptsScope_walletEip155⟩

/-- What is built from known addresses and known chains is admissible. -/
theorem build {addresses ids : List String}
    (knownAddresses : ∀ address ∈ addresses, KnownAddress lookups address)
    (knownChains : KnownChains lookups ids) {built : Authorization}
    (succeeded : Authorization.build addresses ids = .ok built) : Admissible lookups built := by
  obtain ⟨chained, withChains, result⟩ := bind_eq_ok_iff.1 succeeded
  cases result
  exact (walletOnly.withChains knownChains withChains).withAccounts knownAddresses

/-- The union of admissible authorizations is admissible. -/
theorem merge {left right : Authorization} (onLeft : Admissible lookups left)
    (onRight : Admissible lookups right) : Admissible lookups (left.merge right) :=
  ⟨onLeft.required.merge onRight.required, onLeft.optional.merge onRight.optional⟩

/-- An admissible authorization has no scope, or it is accepted. -/
theorem empty_or_accepted (admissible : Admissible lookups value) :
    value.isEmpty = true ∨ Accepted lookups value := by
  by_cases nothing : value.scopes = []
  · exact .inl (Authorization.isEmpty_iff.2 nothing)
  · exact .inr (accepted_iff.2 ⟨nothing, admissible⟩)

end Admissible

end WalletCore.Permission
