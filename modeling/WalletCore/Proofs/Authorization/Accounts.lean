import WalletCore.Proofs.Authorization.Scopes
import WalletCore.Proofs.Chain.Account

/-! # Setting the accounts of an authorization

Addresses that are set are listed under every scope of Ethereum, so as soon as there is one they are
read off again: without the texts that are no addresses, and each once but for the case of letters
(`ethereumAccounts_withAccounts`). The second of two settings holds, and where there is no scope of
Ethereum a setting changes nothing. So the accounts are a view that can be set without any other
change (`account_lens_laws`).
-/
namespace WalletCore

/-- Repeating a list adds no group to it. -/
theorem firstsBy_flatMap_const {α κ ι : Type} [DecidableEq κ] (key : α → κ) (values : List α)
    (item : ι) (items : List ι) :
    firstsBy key ((item :: items).flatMap fun _ => values) = firstsBy key values := by
  rw [List.flatMap_cons]
  refine firstsBy_append_of_subset fun value member => ?_
  obtain ⟨-, -, repeated⟩ := List.mem_flatMap.1 member
  exact List.mem_map_of_mem repeated

namespace Authorization

open Chain (Account Scope)

/-- Whether there is a scope of Ethereum, required or optional. -/
def hasEthereumScope (value : Authorization) : Bool :=
  value.scopes.any fun scope => Scope.isEthereumKey scope.1

/-! ## Tables of scopes -/

/-- Listing addresses changes the accounts under keys of Ethereum. -/
theorem get?_listUnder (addresses : List String) (scopes : Table (List String)) (key : String) :
    (listUnder addresses scopes).get? key = (scopes.get? key).map fun listed =>
      if Scope.isEthereumKey key then addresses.map (accountUnder key) else listed :=
  Table.get?_mapEntries scopes _ key

/-- Listing addresses changes no account under another key. -/
theorem get?_listUnder_of_other {addresses : List String} {scopes : Table (List String)}
    {key : String} (other : Scope.isEthereumKey key = false) :
    (listUnder addresses scopes).get? key = scopes.get? key := by
  rw [get?_listUnder, other]
  exact Option.map_id_apply

/-- Listing addresses keeps the keys. -/
theorem keys_listUnder (addresses : List String) (scopes : Table (List String)) :
    (listUnder addresses scopes).keys = scopes.keys :=
  Entries.names_map (fun key listed =>
    if Scope.isEthereumKey key then addresses.map (accountUnder key) else listed) scopes.entries

/-- Under a key of Ethereum just the addresses are listed. -/
theorem lists_listUnder {addresses : List String} {scopes : Table (List String)}
    {key account : String} (ethereum : Scope.isEthereumKey key = true) :
    Lists (listUnder addresses scopes) key account ↔
      key ∈ scopes.keys ∧ ∃ address ∈ addresses, account = accountUnder key address := by
  simp only [Lists, get?_listUnder, if_pos ethereum, Option.map_eq_some_iff, Table.mem_keys_iff]
  constructor
  · rintro ⟨_, ⟨listed, stored, rfl⟩, member⟩
    obtain ⟨address, known, rfl⟩ := List.mem_map.1 member
    exact ⟨⟨listed, stored⟩, address, known, rfl⟩
  · rintro ⟨⟨listed, stored⟩, address, known, rfl⟩
    exact ⟨_, ⟨listed, stored, rfl⟩, List.mem_map_of_mem known⟩

/-- The addresses that are listed last hold. -/
theorem listUnder_listUnder (former addresses : List String) (scopes : Table (List String)) :
    listUnder addresses (listUnder former scopes) = listUnder addresses scopes := by
  apply Table.ext_get?
  intro key
  rw [get?_listUnder, get?_listUnder, get?_listUnder, Option.map_map]
  congr 1
  funext listed
  by_cases ethereum : Scope.isEthereumKey key = true
  · simp only [Function.comp_apply, if_pos ethereum]
  · simp only [Function.comp_apply, if_neg ethereum]

/-- Where there is no key of Ethereum, listing addresses changes nothing. -/
theorem listUnder_of_others (addresses : List String) {scopes : Table (List String)}
    (others : ∀ key ∈ scopes.keys, Scope.isEthereumKey key = false) :
    listUnder addresses scopes = scopes := by
  apply Table.ext_get?
  intro key
  by_cases known : key ∈ scopes.keys
  · exact get?_listUnder_of_other (others key known)
  · rw [get?_listUnder, Table.get?_eq_none_iff.2 known]
    rfl

/-! ## Authorizations -/

variable {value : Authorization}

/-- There is a scope of Ethereum if a key of Ethereum has a scope. -/
theorem hasEthereumScope_iff :
    value.hasEthereumScope = true ↔
      ∃ key, value.HasScope key ∧ Scope.isEthereumKey key = true := by
  simp only [hasEthereumScope, List.any_eq_true, hasScope_iff_mem_scopes]
  constructor
  · rintro ⟨entry, member, ethereum⟩
    exact ⟨entry.1, ⟨entry, member, rfl⟩, ethereum⟩
  · rintro ⟨_, ⟨entry, member, rfl⟩, ethereum⟩
    exact ⟨entry, member, ethereum⟩

/-- Setting addresses keeps the scopes. -/
theorem hasScope_withAccounts {addresses : List String} {key : String} :
    (value.withAccounts addresses).HasScope key ↔ value.HasScope key := by
  rw [HasScope, withAccounts, keys_listUnder, keys_listUnder, HasScope]

/-- After addresses were set, a scope of Ethereum grants just these. -/
theorem grants_withAccounts {addresses : List String} {key account : String}
    (ethereum : Scope.isEthereumKey key = true) :
    (value.withAccounts addresses).Grants key account ↔
      value.HasScope key ∧ ∃ address ∈ addresses, account = accountUnder key address := by
  change Lists (listUnder _ _) _ _ ∨ Lists (listUnder _ _) _ _ ↔ _
  rw [lists_listUnder ethereum, lists_listUnder ethereum, ← or_and_right]
  rfl

/-- The addresses that are set last hold. -/
theorem withAccounts_withAccounts (value : Authorization) (former addresses : List String) :
    (value.withAccounts former).withAccounts addresses = value.withAccounts addresses := by
  simp only [withAccounts, listUnder_listUnder]

/-- Where there is no scope of Ethereum, setting addresses changes nothing. -/
theorem withAccounts_of_no_ethereum (bare : value.hasEthereumScope = false)
    (addresses : List String) : value.withAccounts addresses = value := by
  have others : ∀ key, value.HasScope key → Scope.isEthereumKey key = false := by
    intro key known
    refine Bool.eq_false_iff.2 fun ethereum => ?_
    have has := hasEthereumScope_iff.2 ⟨key, known, ethereum⟩
    rw [bare] at has
    contradiction
  have required : listUnder addresses value.required = value.required :=
    listUnder_of_others addresses fun key known => others key (.inl known)
  have optional : listUnder addresses value.optional = value.optional :=
    listUnder_of_others addresses fun key known => others key (.inr known)
  rw [withAccounts, required, optional]

/-- Setting addresses keeps the keys, so there is a scope of Ethereum after it if there was one. -/
theorem hasEthereumScope_withAccounts (value : Authorization) (addresses : List String) :
    (value.withAccounts addresses).hasEthereumScope = value.hasEthereumScope := by
  refine Bool.eq_iff_iff.2 ?_
  simp only [hasEthereumScope_iff, hasScope_withAccounts]

/-- The entries after addresses were set. -/
theorem scopes_withAccounts (value : Authorization) (addresses : List String) :
    (value.withAccounts addresses).scopes = value.scopes.map fun scope =>
      (scope.1, if Scope.isEthereumKey scope.1 then addresses.map (accountUnder scope.1)
        else scope.2) :=
  List.map_append.symm

/-- Setting addresses keeps the chains. -/
theorem chains_withAccounts (value : Authorization) (addresses : List String) :
    (value.withAccounts addresses).chains = value.chains := by
  rw [chains, scopes_withAccounts, List.filterMap_map]
  rfl

/-- Of texts that are listed under a key of Ethereum the addresses are read again. -/
theorem addresses_accountUnder {key : String} (ethereumKey : Scope.isEthereumKey key = true)
    (addresses : List String) :
    ((addresses.map (accountUnder key)).filterMap Account.parse?).map (·.address) =
      addresses.filter fun address => Account.isAddress address.toList := by
  obtain ⟨scope, reads, ethereum⟩ := Scope.isEthereumKey_iff.1 ethereumKey
  have each : ∀ address, (Account.parse? (accountUnder key address)).map (·.address) =
      Option.guard (fun address => Account.isAddress address.toList) address := by
    intro address
    apply Option.ext
    intro found
    have parses : ∀ account, Account.parse? (accountUnder key address) = some account ↔
        Account.isAddress address.toList = true ∧ account = ⟨scope, address⟩ := fun account =>
      parse?_eq_some_iff.trans (Account.parse_underKey_eq_ok_iff reads ethereum)
    simp only [Option.map_eq_some_iff, parses, Option.guard_eq_some_iff]
    constructor
    · rintro ⟨_, ⟨wellFormed, rfl⟩, rfl⟩
      exact ⟨rfl, wellFormed⟩
    · rintro ⟨rfl, wellFormed⟩
      exact ⟨_, ⟨wellFormed, rfl⟩, rfl⟩
  rw [List.filterMap_map, List.map_filterMap, ← List.filterMap_eq_filter]
  congr 1
  funext address
  exact each address

/-- After addresses were set they are listed once for every scope of Ethereum. -/
theorem ethereumAddresses_withAccounts (value : Authorization) (addresses : List String) :
    (value.withAccounts addresses).ethereumAddresses =
      (value.scopes.filter fun scope => Scope.isEthereumKey scope.1).flatMap fun _ =>
        addresses.filter fun address => Account.isAddress address.toList := by
  rw [ethereumAddresses, scopes_withAccounts, List.filter_map, List.flatMap_map, List.flatMap_def,
    List.flatMap_def]
  congr 1
  refine List.map_congr_left fun scope member => ?_
  have ethereum : Scope.isEthereumKey scope.1 = true := (List.mem_filter.1 member).2
  rw [if_pos ethereum]
  exact addresses_accountUnder ethereum addresses

/-- The accounts that are read after texts were set: if there is a scope of Ethereum the addresses
among them, each once, and otherwise none. -/
theorem ethereumAccounts_withAccounts (value : Authorization) (addresses : List String) :
    (value.withAccounts addresses).ethereumAccounts =
      if value.hasEthereumScope then
        firstsBy String.toLower (addresses.filter fun address => Account.isAddress address.toList)
      else [] := by
  rw [ethereumAccounts, ethereumAddresses_withAccounts]
  cases ethereum : value.scopes.filter fun scope => Scope.isEthereumKey scope.1 with
  | nil =>
    have bare : value.hasEthereumScope = false :=
      List.any_eq_false.2 (List.filter_eq_nil_iff.1 ethereum)
    rw [bare]
    rfl
  | cons scope rest =>
    have member : scope ∈ value.scopes.filter fun scope => Scope.isEthereumKey scope.1 := by
      rw [ethereum]
      exact List.mem_cons_self
    have has : value.hasEthereumScope = true :=
      List.any_eq_true.2 ⟨scope, List.mem_filter.1 member⟩
    rw [if_pos has]
    exact firstsBy_flatMap_const String.toLower _ scope rest

/-- What is read as an Ethereum account is an address. -/
theorem isAddress_of_mem_ethereumAccounts {address : String}
    (member : address ∈ value.ethereumAccounts) : Account.isAddress address.toList = true := by
  obtain ⟨_, _, _, _, _, parsed, reads, rfl⟩ := mem_ethereumAddresses.1 (mem_of_mem_firstsBy member)
  obtain ⟨-, -, -, wellFormed, -⟩ := Account.parse_eq_ok_iff.1 reads
  exact wellFormed

/-- The Ethereum accounts of one authorization that are set in another one are read there as they
are, if it has a scope of Ethereum. -/
theorem ethereumAccounts_withAccounts_ethereumAccounts (value other : Authorization) :
    (other.withAccounts value.ethereumAccounts).ethereumAccounts =
      if other.hasEthereumScope then value.ethereumAccounts else [] := by
  have wellFormed : value.ethereumAccounts.filter (fun address =>
      Account.isAddress address.toList) = value.ethereumAccounts :=
    List.filter_eq_self.2 fun address member => isAddress_of_mem_ethereumAccounts member
  have distinct : (value.ethereumAccounts.map String.toLower).Nodup :=
    nodup_map_firstsBy String.toLower value.ethereumAddresses
  rw [ethereumAccounts_withAccounts, wellFormed, firstsBy_of_nodup distinct]

/-- Whether there is a scope under the key of an Ethereum chain, or of Ethereum on no particular
chain. -/
def CoversEthereum (value : Authorization) : Prop :=
  ∃ key, value.HasScope key ∧
    (key = Scope.walletEip155.toText ∨ ∃ chain, key = (Scope.eip155 chain).toText)

/-- The scopes of Ethereum are those under its keys, however these are spelled. -/
theorem coversEthereum_iff : value.CoversEthereum ↔ value.hasEthereumScope = true := by
  simp only [hasEthereumScope_iff, Scope.isEthereumKey_iff_toText]
  rfl

/-- What setting addresses makes of an authorization. -/
structure AccountsSet (value : Authorization) (addresses : List String)
    (after : Authorization) : Prop where
  /-- The texts that are addresses are read, in order and each in its first spelling. -/
  read : value.CoversEthereum → after.ethereumAccounts =
    (addresses.filter fun address => Account.isAddress address.toList).eraseDupsBy
      fun other first => other.toLower == first.toLower
  /-- Where there is no scope of Ethereum, no address is read before or after. -/
  unread : ¬ value.CoversEthereum →
    after.ethereumAccounts = value.ethereumAccounts ∧ after.ethereumAccounts = []
  /-- The keys of the scopes stay. -/
  keys : after.required.keys = value.required.keys ∧ after.optional.keys = value.optional.keys
  /-- The scopes that are none of Ethereum stay. -/
  others : ∀ key, key ≠ Scope.walletEip155.toText →
    (∀ chain, key ≠ (Scope.eip155 chain).toText) →
      after.required.get? key = value.required.get? key ∧
        after.optional.get? key = value.optional.get? key
  /-- The chain ids stay. -/
  chainIds : after.chainIds = value.chainIds
  /-- The interface through which the grant came stays. -/
  multichain : after.multichain = value.multichain
  /-- The properties of the session stay. -/
  session : after.session = value.session

/-- Setting addresses sets them, and nothing else. -/
theorem accountsSet_withAccounts (value : Authorization) (addresses : List String) :
    AccountsSet value addresses (value.withAccounts addresses) where
  read covers := by
    rw [ethereumAccounts_withAccounts, if_pos (coversEthereum_iff.1 covers),
      firstsBy_eq_eraseDupsBy]
  unread uncovered := by
    have bare : value.hasEthereumScope = false :=
      Bool.eq_false_iff.2 fun has => uncovered (coversEthereum_iff.2 has)
    have nothing : (value.withAccounts addresses).ethereumAccounts = [] := by
      rw [ethereumAccounts_withAccounts, bare]
      rfl
    refine ⟨?_, nothing⟩
    rw [withAccounts_of_no_ethereum bare]
  keys := ⟨keys_listUnder addresses value.required, keys_listUnder addresses value.optional⟩
  others key wallet chains := by
    have other : Scope.isEthereumKey key = false := by
      refine Bool.eq_false_iff.2 fun ethereum => ?_
      rcases Scope.isEthereumKey_iff_toText.1 ethereum with same | ⟨chain, same⟩
      · exact wallet same
      · exact chains chain same
    exact ⟨get?_listUnder_of_other other, get?_listUnder_of_other other⟩
  chainIds := congrArg (List.map Chain.Id.toHex) (chains_withAccounts value addresses)
  multichain := rfl
  session := rfl

/-- The laws of the accounts as a view that can be set: what is set is read, as far as it can be,
the last setting holds, and a setting changes nothing that is not an account of Ethereum. -/
theorem account_lens_laws (value : Authorization) (former addresses : List String) :
    AccountsSet value addresses (value.withAccounts addresses) ∧
      (value.withAccounts former).withAccounts addresses = value.withAccounts addresses :=
  ⟨accountsSet_withAccounts value addresses, withAccounts_withAccounts value former addresses⟩

/-- Two scopes of Ethereum and two others, and texts with a colon, without a character and in the
letters of an earlier one: two addresses are read, each once. -/
theorem account_lens_laws_of_bad_texts :
    let value : Authorization := { Authorization.empty with
      required := (Table.empty.insert "eip155:01" ["eip155:01:0xff"]).insert "eip155:1" []
      optional := (Table.empty.insert "wallet:eip155" ["old"]).insert "wallet" ["kept"] }
    let after : Authorization := { Authorization.empty with
      required := (Table.empty.insert "eip155:01" ["eip155:01:0xff"]).insert "eip155:1"
        ["eip155:1:0xAb", "eip155:1:1:0xcd", "eip155:1:", "eip155:1:0xaB", "eip155:1:0xcd"]
      optional := (Table.empty.insert "wallet:eip155" ["wallet:eip155:0xAb",
        "wallet:eip155:1:0xcd", "wallet:eip155:", "wallet:eip155:0xaB",
        "wallet:eip155:0xcd"]).insert "wallet" ["kept"] }
    let addresses := ["0xAb", "1:0xcd", "", "0xaB", "0xcd"]
    AccountsSet value addresses after ∧ after.ethereumAccounts = ["0xAb", "0xcd"] ∧
      (value.withAccounts ["0xee"]).withAccounts addresses = after := by
  intro value after addresses
  have changed : value.withAccounts addresses = after := by decide +kernel
  have covers : value.CoversEthereum := coversEthereum_iff.2 (by decide +kernel)
  obtain ⟨set, again⟩ := account_lens_laws value ["0xee"] addresses
  rw [changed] at set again
  have kept : (addresses.filter fun address => Account.isAddress address.toList) =
      ["0xAb", "0xaB", "0xcd"] := by decide +kernel
  have folded : "0xAb".toLower = "0xab" ∧ "0xaB".toLower = "0xab" ∧ "0xcd".toLower = "0xcd" := by
    decide +kernel
  obtain ⟨first, second, third⟩ := folded
  refine ⟨set, (set.read covers).trans ?_, again⟩
  rw [kept]
  simp [List.eraseDupsBy_cons, first, second, third]

end Authorization

end WalletCore
