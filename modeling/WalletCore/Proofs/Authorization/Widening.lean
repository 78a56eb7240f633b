import WalletCore.Proofs.Authorization.Chains
import WalletCore.Proofs.Permission.ScopesCaveat

/-! # Setting the chains widens the scopes that stay

When the chains of an authorization are set, all its Ethereum addresses are listed under every scope
of Ethereum, under those that stay just as under those that are new. A scope that stays is therefore
confined to the accounts that it listed only if these were all there are (`scopes_confined_iff`). An
account that was granted on one chain is otherwise granted on the other ones too, even if no chain
is added. No address comes in that was granted nowhere, and scopes of other families are left alone.
-/
namespace WalletCore.Authorization

open Chain (Scope)

/-- Whether every key is a scope and every account belongs to the scope of its key. -/
def WellPlaced (value : Authorization) : Prop :=
  ∀ entry ∈ value.scopes, ∃ scope, Scope.parse entry.1 = .ok scope ∧
    ∀ account ∈ entry.2, Permission.BelongsTo scope account

/-- Whether every scope of Ethereum that stays grants only what it granted before. -/
def ConfinesScopes (before after : Authorization) : Prop :=
  ∀ key, Scope.isEthereumKey key = true → before.HasScope key → after.HasScope key →
    ∀ account, after.Grants key account → before.Grants key account

variable {value changed : Authorization} {ids : List String}

/-- After the chains were set, every scope of Ethereum grants all Ethereum accounts. -/
theorem grants_withChains (succeeded : value.withChains ids = .ok changed) {key : String}
    (ethereum : Scope.isEthereumKey key = true) (stays : changed.HasScope key) {account : String} :
    changed.Grants key account ↔
      ∃ address ∈ value.ethereumAccounts, account = accountUnder key address := by
  obtain ⟨chains, -, rfl⟩ := withChains_eq_ok_iff.1 succeeded
  rw [grants_withAccounts ethereum]
  exact and_iff_right (hasScope_withAccounts.1 stays)

/-- After the chains were set, a scope of another family grants what it did. -/
theorem grants_withChains_of_other (succeeded : value.withChains ids = .ok changed) {key : String}
    (other : Scope.isEthereumKey key = false) {account : String} :
    changed.Grants key account ↔ value.Grants key account := by
  obtain ⟨chains, read, rfl⟩ := withChains_eq_ok_iff.1 succeeded
  obtain ⟨required, optional⟩ := (chainsSet_of_mapM read).otherScopes key other
  rw [Grants, Lists, Lists, required, optional]
  rfl

/-- After the chains were set, no address is granted that was granted nowhere before. -/
theorem mem_ethereumAccounts_of_withChains (succeeded : value.withChains ids = .ok changed)
    {address : String} (member : address ∈ changed.ethereumAccounts) :
    address ∈ value.ethereumAccounts := by
  obtain ⟨chains, read, rfl⟩ := withChains_eq_ok_iff.1 succeeded
  rw [(chainsSet_of_mapM read).accounts] at member
  split at member
  · exact member
  · exact absurd member List.not_mem_nil

/-- Setting the chains grants, under every scope of Ethereum that there is then, just the Ethereum
accounts that were granted anywhere. So the scopes that stay grant no more than before exactly if
each of them granted all these accounts already. No address comes in that was granted nowhere, and
scopes of other families grant what they did. -/
theorem scopes_confined_iff (succeeded : value.withChains ids = .ok changed) :
    (∀ key account, Scope.isEthereumKey key = true → changed.HasScope key →
        (changed.Grants key account ↔
          ∃ address ∈ value.ethereumAccounts, account = accountUnder key address)) ∧
      (ConfinesScopes value changed ↔
        ∀ key, Scope.isEthereumKey key = true → value.HasScope key → changed.HasScope key →
          ∀ address ∈ value.ethereumAccounts, value.Grants key (accountUnder key address)) ∧
      (∀ address ∈ changed.ethereumAccounts, address ∈ value.ethereumAccounts) ∧
      ∀ key account, Scope.isEthereumKey key = false →
        (changed.Grants key account ↔ value.Grants key account) := by
  refine ⟨fun key account ethereum stays => grants_withChains succeeded ethereum stays, ⟨?_, ?_⟩,
    fun address member => mem_ethereumAccounts_of_withChains succeeded member,
    fun key account other => grants_withChains_of_other succeeded other⟩
  · intro confined key ethereum was stays address member
    have granted : changed.Grants key (accountUnder key address) :=
      (grants_withChains succeeded ethereum stays).2 ⟨address, member, rfl⟩
    exact confined key ethereum was stays _ granted
  · intro listed key ethereum was stays account granted
    obtain ⟨address, member, rfl⟩ := (grants_withChains succeeded ethereum stays).1 granted
    exact listed key ethereum was stays address member

/-- Where both scopes list the same address, a chain may be added without widening them: only the
new scope receives the address. -/
theorem scopes_confined_iff_of_same_address :
    let value : Authorization := { Authorization.empty with
      required := Table.empty.insert "eip155:1" ["eip155:1:0xaa"]
      optional := Table.empty.insert "eip155:10" ["eip155:10:0xaa"] }
    let changed : Authorization := { value with
      optional := value.optional.insert "eip155:137" ["eip155:137:0xaa"] }
    value.withChains ["0xa", "0x89"] = .ok changed ∧ ConfinesScopes value changed ∧
      changed.Grants "eip155:137" "eip155:137:0xaa" := by
  intro value changed
  have succeeded : value.withChains ["0xa", "0x89"] = .ok changed :=
    withChains_eq_ok_iff.2 ⟨[10, 137], rfl, by decide +kernel⟩
  have accounts : value.ethereumAccounts = ["0xaa"] := by decide +kernel
  obtain ⟨grants, confined, -⟩ := scopes_confined_iff succeeded
  refine ⟨succeeded, confined.2 fun key _ was _ => ?_,
    (grants _ _ (by decide +kernel) (by decide +kernel)).2 ?_⟩
  · rw [accounts, List.forall_mem_singleton]
    rcases was with inRequired | inOptional
    · cases List.mem_singleton.1 inRequired
      decide +kernel
    · cases List.mem_singleton.1 inOptional
      decide +kernel
  · rw [accounts]
    exact ⟨_, List.mem_singleton_self _, rfl⟩

/-- Two scopes with one address each, and no chain that is new: setting the chains lists both
addresses under both scopes. -/
theorem staying_scopes_widened :
    let value : Authorization := { Authorization.empty with
      required := Table.empty.insert "eip155:1" ["eip155:1:0xaa"]
      optional := Table.empty.insert "eip155:10" ["eip155:10:0xbb"] }
    let changed : Authorization := { Authorization.empty with
      required := Table.empty.insert "eip155:1" ["eip155:1:0xaa", "eip155:1:0xbb"]
      optional := Table.empty.insert "eip155:10" ["eip155:10:0xaa", "eip155:10:0xbb"] }
    WellPlaced value ∧ value.withChains ["0xa"] = .ok changed ∧ ¬ ConfinesScopes value changed := by
  intro value changed
  have succeeded : value.withChains ["0xa"] = .ok changed :=
    withChains_eq_ok_iff.2 ⟨[10], rfl, by decide +kernel⟩
  have first : Scope.parse "eip155:1" = .ok (.eip155 1) :=
    Scope.parse_eq_ok_iff.2 (by decide +kernel)
  have second : Scope.parse "eip155:10" = .ok (.eip155 10) :=
    Scope.parse_eq_ok_iff.2 (by decide +kernel)
  have onFirst : Permission.BelongsTo (.eip155 1) "eip155:1:0xaa" :=
    ⟨⟨.eip155 1, "0xaa"⟩, parse?_eq_some_iff.1 (by decide +kernel), rfl⟩
  have onSecond : Permission.BelongsTo (.eip155 10) "eip155:10:0xbb" :=
    ⟨⟨.eip155 10, "0xbb"⟩, parse?_eq_some_iff.1 (by decide +kernel), rfl⟩
  have placed : WellPlaced value := by
    refine List.forall_mem_cons.2 ⟨⟨_, first, ?_⟩, List.forall_mem_singleton.2 ⟨_, second, ?_⟩⟩
    · exact List.forall_mem_singleton.2 onFirst
    · exact List.forall_mem_singleton.2 onSecond
  refine ⟨placed, succeeded, fun confined => ?_⟩
  have granted : value.Grants "eip155:1" "eip155:1:0xbb" :=
    confined "eip155:1" (by decide +kernel) (by decide +kernel) (by decide +kernel) _
      (by decide +kernel)
  exact absurd granted (by decide +kernel)

end WalletCore.Authorization
