import WalletCore.Proofs.Authorization.Build
import WalletCore.Proofs.Authorization.Views

/-! # The scopes of an authorization

Whether a scope was required or optional makes no difference to what an origin may see. This module
takes both tables of an authorization together: a key has a scope in one of them (`HasScope`), and
an account is granted where one of them lists it (`Grants`). The views of an authorization are said
in these terms: the chains are those of the keys, the Ethereum addresses those of the accounts that
are granted under keys of Ethereum.
-/
namespace WalletCore.Authorization

/-- Whether there is a scope under a key, required or optional. -/
def HasScope (value : Authorization) (key : String) : Prop :=
  key ∈ value.required.keys ∨ key ∈ value.optional.keys

/-- Whether an account is listed under a key, in the required or the optional scope. -/
def Grants (value : Authorization) (key account : String) : Prop :=
  Lists value.required key account ∨ Lists value.optional key account

/-- Chain ids in hexadecimal whose numbers strictly ascend. -/
def AscendingIds (ids : List String) : Prop :=
  ∃ chains : List Chain.Id, chains.Pairwise (· < ·) ∧ ids = chains.map Chain.Id.toHex

variable {value : Authorization}

instance (value : Authorization) (key : String) : Decidable (value.HasScope key) :=
  inferInstanceAs (Decidable (_ ∨ _))

/-- An account is listed under a key if it is among what is found there. -/
theorem lists_iff_mem_getD {scopes : Table (List String)} {key account : String} :
    Lists scopes key account ↔ account ∈ (scopes.get? key).getD [] := by
  rw [Lists]
  cases scopes.get? key with
  | none => simp
  | some listed => simp

instance (scopes : Table (List String)) (key account : String) :
    Decidable (Lists scopes key account) :=
  decidable_of_iff _ lists_iff_mem_getD.symm

instance (value : Authorization) (key account : String) : Decidable (value.Grants key account) :=
  inferInstanceAs (Decidable (_ ∨ _))

/-- Authorizations are the same if all their parts are. -/
theorem ext_parts {other : Authorization} (required : value.required = other.required)
    (optional : value.optional = other.optional) (multichain : value.multichain = other.multichain)
    (session : value.session = other.session) : value = other := by
  cases value
  cases other
  cases required
  cases optional
  cases multichain
  cases session
  rfl

/-- An account is listed under a key by the entry of the key. -/
theorem lists_iff_mem_entries {scopes : Table (List String)} {key account : String} :
    Lists scopes key account ↔ ∃ entry ∈ scopes.entries, entry.1 = key ∧ account ∈ entry.2 := by
  constructor
  · rintro ⟨listed, stored, member⟩
    exact ⟨(key, listed), Table.get?_eq_some_iff.1 stored, rfl, member⟩
  · rintro ⟨⟨_, listed⟩, stored, rfl, member⟩
    exact ⟨listed, Table.get?_eq_some_iff.2 stored, member⟩

/-- A key has a scope if it is the key of an entry. -/
theorem hasScope_iff_mem_scopes {key : String} :
    value.HasScope key ↔ ∃ entry ∈ value.scopes, entry.1 = key := by
  simp only [HasScope, Table.keys, scopes, List.mem_map, List.mem_append, or_and_right, exists_or]

/-- An account is granted under a key by an entry of the key. -/
theorem grants_iff_mem_scopes {key account : String} :
    value.Grants key account ↔ ∃ entry ∈ value.scopes, entry.1 = key ∧ account ∈ entry.2 := by
  simp only [Grants, lists_iff_mem_entries, scopes, List.mem_append, or_and_right, exists_or]

/-- The chains are those of the keys that have a scope. -/
theorem mem_chains_iff_hasScope {chain : Chain.Id} :
    chain ∈ value.chains ↔
      ∃ key, value.HasScope key ∧ Chain.Scope.chainOfKey? key = some chain := by
  simp only [mem_chains, hasScope_iff_mem_scopes]
  constructor
  · rintro ⟨entry, member, reads⟩
    exact ⟨entry.1, ⟨entry, member, rfl⟩, reads⟩
  · rintro ⟨_, ⟨entry, member, rfl⟩, reads⟩
    exact ⟨entry, member, reads⟩

/-- The Ethereum addresses are those of the accounts that are granted under keys of Ethereum. -/
theorem mem_ethereumAddresses_iff_grants {address : String} :
    address ∈ value.ethereumAddresses ↔
      ∃ key account, Chain.Scope.isEthereumKey key = true ∧ value.Grants key account ∧
        ∃ parsed, Chain.Account.parse account = .ok parsed ∧ parsed.address = address := by
  simp only [mem_ethereumAddresses, grants_iff_mem_scopes]
  constructor
  · rintro ⟨entry, member, ethereum, account, stands, parsed⟩
    exact ⟨entry.1, account, ethereum, ⟨entry, member, rfl, stands⟩, parsed⟩
  · rintro ⟨_, account, ethereum, ⟨entry, member, rfl, stands⟩, parsed⟩
    exact ⟨entry, member, ethereum, account, stands, parsed⟩

/-- The chain ids of an authorization ascend by number. -/
theorem ascendingIds_chainIds (value : Authorization) : AscendingIds value.chainIds :=
  ⟨value.chains, value.chains_ascending, rfl⟩

/-- The chain ids of an authorization are the hexadecimal forms of its chains. -/
theorem mem_chainIds {id : String} :
    id ∈ value.chainIds ↔ ∃ chain ∈ value.chains, chain.toHex = id :=
  List.mem_map

end WalletCore.Authorization
