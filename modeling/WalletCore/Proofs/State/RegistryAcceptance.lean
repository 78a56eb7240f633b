import WalletCore.Proofs.Permission.Validity
import WalletCore.Proofs.State.GrantConversion

/-! # Migrated permissions are accepted

The permission that a conversion writes is made member by member, and the registry of permissions
reads it with rules of its own. What is written is decoded as a permission, and the registry builds
just this permission from its origin and its caveats (`decoder_newPermission`,
`build_authorizationGrant`). The authorization in it is admissible in every wallet that knows the
addresses and the chains that were converted and accepts what the subject was authorized to before
(`Extends.admissible`), so such a wallet accepts the caveat.
-/
namespace WalletCore

open Permission (WalletLookups AcceptsScope AcceptsScopes Admissible KnownAddress)

namespace Authorization

variable {lookups : WalletLookups} {former value : Authorization} {addresses : List String}
  {chains : List Chain.Id}

/-- The wallet and chains that have a network client are accepted as scopes without accounts. -/
theorem acceptsScope_of_mem_builtKeys
    (knownChains : ∀ chain ∈ chains, ∃ client, lookups.networkClient chain.toHex = .ok client)
    {key : String} (member : key ∈ builtKeys chains) : AcceptsScope lookups key [] := by
  rcases List.mem_cons.1 member with rfl | onChain
  · exact Permission.acceptsScope_walletEip155
  · obtain ⟨chain, listed, rfl⟩ := List.mem_map.1 onChain
    obtain ⟨client, found⟩ := knownChains chain listed
    exact Permission.acceptsScope_chainKey found

/-- What an admissible authorization is extended by is admissible if the wallet knows the addresses
and the chains. -/
theorem Extends.admissible (extension : Extends former value addresses chains)
    (admissible : Admissible lookups former)
    (knownAddresses : ∀ address ∈ addresses, KnownAddress lookups address)
    (knownChains : ∀ chain ∈ chains, ∃ client, lookups.networkClient chain.toHex = .ok client) :
    Admissible lookups value := by
  refine ⟨extension.required ▸ admissible.required, fun key accounts found => ?_⟩
  have listed : ∀ account ∈ accounts, Lists former.optional key account ∨
      (key ∈ builtKeys chains ∧ ∃ address ∈ addresses, account = accountUnder key address) :=
    fun account member => (extension.accounts key account).1 ⟨accounts, found, member⟩
  by_cases built : key ∈ builtKeys chains
  · have bare := acceptsScope_of_mem_builtKeys knownChains built
    have granted := bare.accountsUnder (isEthereumKey_of_mem_builtKeys built) knownAddresses
    cases before : former.optional.get? key with
    | none =>
      refine granted.of_union granted fun account member => ?_
      rcases listed account member with stands | ⟨-, address, known, rfl⟩
      · exact absurd stands (not_lists_of_get?_eq_none before)
      · exact .inl (List.mem_map_of_mem known)
    | some formerly =>
      refine (admissible.optional key formerly before).of_union granted fun account member => ?_
      rcases listed account member with stands | ⟨-, address, known, rfl⟩
      · exact .inl (stands.mem before)
      · exact .inr (List.mem_map_of_mem known)
  · -- A key that is not built was there before, with all of its accounts.
    have present : key ∈ value.optional.keys := Table.mem_keys_iff.2 ⟨accounts, found⟩
    have remains := ((extension.keys key).1 present).resolve_right built
    obtain ⟨formerly, before⟩ := Table.mem_keys_iff.1 remains
    have accepts := admissible.optional key formerly before
    refine accepts.of_union accepts fun account member => ?_
    rcases listed account member with stands | ⟨impossible, -⟩
    · exact .inl (stands.mem before)
    · exact absurd impossible built

/-- An authorization that was extended has the scope of the wallet. -/
theorem Extends.scopes_ne_nil (extension : Extends former value addresses chains) :
    value.scopes ≠ [] := by
  have wallet : Chain.Scope.walletEip155.toText ∈ builtKeys chains := List.mem_cons_self
  exact scopes_ne_nil_iff.2 ⟨_, .inr ((extension.keys _).2 (.inr wallet))⟩

end Authorization

/-- The permission of an origin is built from the one caveat that holds an authorization. -/
theorem Permission.build_authorizationGrant (invoker : String) {json : Json}
    {value : Authorization} (decoded : Authorization.decoder.ofJson json = .ok value) :
    buildAuthorizationGrant invoker [⟨scopesCaveat, json⟩] =
      .ok ⟨authorizationName, invoker, [⟨scopesCaveat, json⟩]⟩ := by
  simp only [buildAuthorizationGrant, ↓reduceIte, authorizationOfValue, decoded]
  rfl

namespace State.GrantConversion

open Permission (accountsName chainsName authorizationName scopesCaveat CaveatSpecification)

/-- The permission that carries the authorization of a subject. -/
def authorizationPermission? (subject : Json) : Option Json := do
  (← subject.get? "permissions").get? authorizationName

/-- What a wallet must know of the permissions of a subject to accept their conversion. -/
structure Recognizes (lookups : WalletLookups) (selected : String)
    (permissions : List (String × Json)) : Prop where
  /-- The wallet knows the addresses of the former permission for accounts. -/
  addresses : ∀ former addresses, permissions.lookup accountsName = some former →
    caveatStrings? former Permission.accountsCaveat = some addresses →
    ∀ address ∈ addresses, KnownAddress lookups address
  /-- The wallet has network clients for the chains. -/
  chains : ∀ ids, ChainIds selected permissions ids → Permission.KnownChains lookups ids
  /-- The wallet accepts the caveat that the subject has already. -/
  present : ∀ permission json, permissions.lookup authorizationName = some permission →
    caveatValue? permission scopesCaveat = some json →
    (CaveatSpecification.authorizedScopes lookups).validate ⟨scopesCaveat, json⟩ = .ok ()

/-- The permission that is written is decoded with its origin and its caveat. -/
theorem decoder_newPermission (origin : String) (former : Json) (value : Authorization) :
    Permission.Grant.decoder.ofJson (newPermission origin former value) =
      .ok ⟨authorizationName, origin, [⟨scopesCaveat, value.toJson⟩]⟩ := by
  unfold newPermission
  generalize former.get? "id" = id
  generalize former.get? "date" = date
  cases id <;> cases date <;> rfl

/-- What a subject was authorized to before is admissible in a wallet that accepts its caveat. -/
theorem Present.admissible {lookups : WalletLookups} {selected : String}
    {permissions : List (String × Json)} {present : Authorization}
    (carried : Present permissions present)
    (recognizes : Recognizes lookups selected permissions) : Admissible lookups present := by
  cases carried with
  | missing absent => exact .empty
  | carried found value decoded =>
    have accepted : Permission.Accepted lookups present :=
      Permission.accepted_of_validate decoded (recognizes.present _ _ found value)
    exact (Permission.accepted_iff.1 accepted).2

/-- A wallet that recognizes the permissions of a subject accepts the authorization after its
conversion. -/
theorem accepted_of_reads {lookups : WalletLookups} {selected : String}
    {permissions : List (String × Json)} {former : Json} {addresses : List String}
    {chains : List Chain.Id} {present value : Authorization}
    (reads : Reads selected permissions former addresses chains present)
    (extension : Authorization.Extends present value addresses chains)
    (recognizes : Recognizes lookups selected permissions) :
    Permission.Accepted lookups value := by
  obtain ⟨ids, listed, parsed⟩ := reads.ids
  have knownAddresses := recognizes.addresses former addresses reads.found reads.listed
  have knownChains : ∀ chain ∈ chains,
      ∃ client, lookups.networkClient chain.toHex = .ok client := by
    intro chain member
    obtain ⟨id, inIds, read⟩ := exists_of_mem_mapM parsed member
    exact recognizes.chains ids listed id inIds chain read
  have admissible := reads.carried.admissible recognizes
  exact Permission.accepted_iff.2 ⟨extension.scopes_ne_nil,
    extension.admissible admissible knownAddresses knownChains⟩

/-- A subject that the migration changes was converted for the selected chain. -/
theorem convertSubject_of_changed {controllers : Controllers} {origin : String}
    {before after : Json} (found : subject? controllers origin = some before)
    (migrated : subject? (migration.transform controllers).1 origin = some after)
    (changed : after ≠ before) :
    ∃ selected, selectedChain controllers = .ok selected ∧
      convertSubject selected origin before = .ok (some after) := by
  obtain ⟨controller, subjects, held, nested, listed⟩ := subject?_eq_some_iff.1 found
  have unchanged : subject? controllers origin ≠ some after := by
    intro same
    rw [found] at same
    exact changed (Option.some.inj same).symm
  simp only [migration, Migration.transform_ofFindings, transform, held,
    objectMember_eq_ok_iff.2 nested] at migrated
  split at migrated
  · cases reached : selectedChain controllers with
    | error finding =>
      rw [reached] at migrated
      exact absurd migrated unchanged
    | ok selected =>
      simp only [reached, subject?_convertIn, listed, Option.map_some, Option.some.injEq]
        at migrated
      refine ⟨selected, rfl, ?_⟩
      unfold migratedSubject at migrated
      split at migrated
      · rename_i converted outcome
        rw [← migrated]
        exact outcome
      · exact absurd migrated.symm changed
  · exact absurd migrated unchanged

/-- A subject that the migration changes holds a permission that the registry knows: it is decoded,
the registry builds just this permission from its origin and its caveats, and every wallet that
recognizes the former permissions accepts its caveat. -/
theorem migrated_permission_accepted (controllers : Controllers) {origin : String}
    {before after : Json} (found : subject? controllers origin = some before)
    (migrated : subject? (migration.transform controllers).1 origin = some after)
    (changed : after ≠ before) :
    ∃ selected permissions permission grant specification,
      selectedChain controllers = .ok selected ∧
      before.get? "permissions" = some (.object permissions) ∧
      authorizationPermission? after = some permission ∧
      Permission.Grant.decoder.ofJson permission = .ok grant ∧
      Permission.grantSpecifications.get? authorizationName = some specification ∧
      specification.build origin grant.caveats = .ok grant ∧
      ∀ lookups, Recognizes lookups selected permissions →
        ∃ caveat, grant.caveats = [caveat] ∧
          (CaveatSpecification.authorizedScopes lookups).validate caveat = .ok () := by
  obtain ⟨selected, chain, converted⟩ := convertSubject_of_changed found migrated changed
  obtain ⟨members, permissions, result, rfl, held, inner, same⟩ := convertSubject_eq_ok converted
  obtain ⟨granted, rfl, rfl⟩ := Option.map_eq_some_iff.1 same.symm
  obtain ⟨former, addresses, chains, present, value, reads, extension, rfl⟩ :=
    convertPermissions_eq_ok inner
  have written : authorizationPermission? (.object (Entries.put "permissions"
      (.object (Entries.put authorizationName (newPermission origin former value)
        (Entries.swapRemove chainsName (Entries.swapRemove accountsName permissions))))
      members)) = some (newPermission origin former value) := by
    simp only [authorizationPermission?, Json.get?, Json.asObject?, Option.bind_some,
      Option.bind_eq_bind, Entries.lookup_put, ↓reduceIte]
  refine ⟨selected, permissions, newPermission origin former value, _, .authorization, chain, held,
    written, decoder_newPermission origin former value, rfl, ?_, fun lookups recognizes => ?_⟩
  · exact Permission.build_authorizationGrant origin (Authorization.decoder_toJson value)
  · exact ⟨_, rfl, accepted_of_reads reads extension recognizes⟩

/-- A subject that lists an address and no chains is converted for the chain of the selected
network, and a wallet that knows both accepts its caveat. -/
theorem migrated_permission_accepted_on_selected :
    let origin := "https://dapp.example"
    let caveat := Json.object [("type", .string Permission.accountsCaveat),
      ("value", .array [.string "0xaa"])]
    let before := Json.object [("permissions", .object [(accountsName,
      .object [("caveats", .array [caveat])])])]
    let network := Json.object [("rpcEndpoints", .array [.object
      [("networkClientId", .string "mainnet")]])]
    let controllers : Controllers := Members.ofList [
      (permissionController, .object [("subjects", .object [(origin, before)])]),
      (networkController, .object [("selectedNetworkClientId", .string "mainnet"),
        ("networkConfigurationsByChainId", .object [("0x1", network)])])]
    let after := migratedSubject "0x1" origin before
    let lookups : WalletLookups := {
      accounts := [⟨"1", "0xAA"⟩]
      networkClient := fun id => if id = "0x1" then .ok "mainnet" else .error "unknown" }
    subject? controllers origin = some before ∧
      subject? (migration.transform controllers).1 origin = some after ∧ after ≠ before ∧
      ∃ permission grant caveat, authorizationPermission? after = some permission ∧
        Permission.Grant.decoder.ofJson permission = .ok grant ∧ grant.caveats = [caveat] ∧
        (CaveatSpecification.authorizedScopes lookups).validate caveat = .ok () := by
  intro origin caveat before network controllers after lookups
  have found : subject? controllers origin = some before := rfl
  have migrated : subject? (migration.transform controllers).1 origin = some after := rfl
  have changed : after ≠ before := by
    intro same
    have gone : hasAccounts after = false := rfl
    rw [same] at gone
    contradiction
  obtain ⟨selected, permissions, permission, grant, -, chain, inner, written, decoded, -, -,
    accepted⟩ := migrated_permission_accepted controllers found migrated changed
  have mainnet : selectedChain controllers = .ok "0x1" := rfl
  rw [mainnet] at chain
  cases chain
  cases inner
  have recognizes : Recognizes lookups "0x1" [(accountsName, .object
      [("caveats", .array [caveat])])] := by
    refine ⟨fun former addresses listed strings => ?_, fun ids listed => ?_, nofun⟩
    · cases listed
      cases strings
      exact List.forall_mem_singleton.2
        (.of_letters (by decide) (List.mem_singleton_self _) (by decide))
    · cases listed with
      | missing absent =>
        have one : Chain.Id.ofHex "0x1" = .ok 1 := rfl
        have client : lookups.networkClient (Chain.Id.toHex 1) = .ok "mainnet" := rfl
        exact Permission.knownChains_singleton one client
      | unlisted found empty => cases found
      | listed found listed nonempty => cases found
  obtain ⟨caveat, same, valid⟩ := accepted lookups recognizes
  exact ⟨found, migrated, changed, permission, grant, caveat, written, decoded, same, valid⟩

end State.GrantConversion

end WalletCore
