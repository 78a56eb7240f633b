import WalletCore.Proofs.Chain.Account
import WalletCore.Proofs.State.ConversionReports

/-! # Addresses are converted as they are

A conversion reads the addresses of a subject as strings and does not look into them. A subject with
a malformed address is converted like any other, without a report, and a text stands among the
accounts of its new authorization that is not an account. Only what else a conversion reads decides
whether a subject is reported and left as it was (`addresses_unchecked`).
-/
namespace WalletCore.State

/-- The origin of the subject that a finding is about, if it is about one. -/
def Finding.origin? : Finding → Option String
  | .invalidPart _ origin => some origin
  | .inconvertible origin _ => some origin
  | .invalidState .. | .unknownNetwork _ | .described _ => none

namespace GrantConversion

open Permission (accountsName authorizationName)
open Authorization (Lists Extends accountUnder)
open Chain (Account Scope)

/-! ## Reports about an origin -/

/-- A fault of a subject is a finding about its origin. -/
theorem SubjectFault.origin?_eq {selected origin : String} {subject : Json} {finding : Finding}
    (fault : SubjectFault selected origin subject finding) : finding.origin? = some origin := by
  cases fault with
  | permissions unreadable => rfl
  | within held found fault => cases fault <;> rfl

/-- What is reported about a subject is a finding about its origin. -/
theorem origin?_of_subjectFinding? {selected origin : String} {subject : Json} {finding : Finding}
    (reported : subjectFinding? selected origin subject = some finding) :
    finding.origin? = some origin := by
  unfold subjectFinding? at reported
  cases result : convertSubject selected origin subject with
  | ok converted =>
    rw [result] at reported
    contradiction
  | error other =>
    rw [result] at reported
    cases reported
    exact (SubjectFault.of_error result).origin?_eq

/-- Among the reports about all subjects, the one about an origin is the one about its subject. -/
theorem exists_report_iff {selected origin : String} {subjects : List (String × Json)}
    {subject : Json} (distinct : (Entries.names subjects).Nodup)
    (listed : subjects.lookup origin = some subject) :
    (∃ anomaly ∈ (subjects.filterMap fun entry => subjectFinding? selected entry.1 entry.2).map
          (Anomaly.mk migration.version),
        anomaly.finding.origin? = some origin) ↔
      (subjectFinding? selected origin subject).isSome = true := by
  rw [Option.isSome_iff_exists]
  constructor
  · rintro ⟨anomaly, reported, about⟩
    obtain ⟨finding, among, rfl⟩ := List.mem_map.1 reported
    obtain ⟨⟨name, other⟩, member, found⟩ := List.mem_filterMap.1 among
    cases (origin?_of_subjectFinding? found).symm.trans about
    cases ((Entries.lookup_eq_some_iff distinct).2 member).symm.trans listed
    exact ⟨finding, found⟩
  · rintro ⟨finding, found⟩
    refine ⟨⟨_, finding⟩, List.mem_map_of_mem ?_, origin?_of_subjectFinding? found⟩
    exact List.mem_filterMap.2 ⟨_, Entries.mem_of_lookup listed, found⟩

/-- Where the selected chain is known, a subject with the former permission for accounts becomes
what its own conversion makes of it, and it is reported if that conversion fails. -/
theorem transform_subject {controllers : Controllers} {origin selected : String} {subject : Json}
    (wellFormed : controllers.WellFormed) (selects : Selects controllers selected)
    (found : subject? controllers origin = some subject) (has : hasAccounts subject = true) :
    subject? (migration.transform controllers).1 origin =
        some (migratedSubject selected origin subject) ∧
      ((∃ anomaly ∈ (migration.transform controllers).2,
          anomaly.finding.origin? = some origin) ↔
        (subjectFinding? selected origin subject).isSome = true) := by
  obtain ⟨controller, subjects, held, nested, listed⟩ := subject?_eq_some_iff.1 found
  have root : Json.WellFormed (.object controller) := wellFormed _ (Entries.mem_of_lookup held)
  have distinct := (root.lookup nested).distinct
  have transformed := transform_of_selects held nested (Entries.mem_of_lookup listed) has selects
  rw [migration, Migration.transform_ofFindings, transformed]
  refine ⟨?_, exists_report_iff distinct listed⟩
  rw [subject?_convertIn, listed]
  rfl

/-! ## Subjects that list addresses -/

/-- A subject whose former permission for accounts lists addresses. -/
structure ListsAddresses (subject : Json) (permissions : List (String × Json)) (former : Json)
    (addresses : List String) : Prop where
  /-- It has permissions. -/
  held : subject.get? "permissions" = some (.object permissions)
  /-- There is the former permission for accounts among them. -/
  found : permissions.lookup accountsName = some former
  /-- The addresses are the strings of its caveat. -/
  listed : caveatStrings? former Permission.accountsCaveat = some addresses

/-- Whether what a conversion reads can be read; the addresses are some strings. -/
def Readable (selected : String) (permissions : List (String × Json)) (former : Json)
    (addresses : List String) : Prop :=
  ∃ chains present, Reads selected permissions former addresses chains present

/-- A subject after a conversion that copied its addresses. -/
structure Copied (selected origin : String) (permissions : List (String × Json)) (former : Json)
    (addresses : List String) (after : Json) (present value : Authorization) : Prop where
  /-- One permission that carries the value took the place of the former ones. -/
  stored : ∃ granted, after.get? "permissions" = some (.object granted) ∧
    Writes origin former permissions granted value
  /-- The value has the addresses on the chains beside what was authorized already. -/
  grows : ∃ chains, Reads selected permissions former addresses chains present ∧
    Extends present value addresses chains

/-- A subject that lists addresses has the former permission for accounts. -/
theorem ListsAddresses.hasAccounts {subject former : Json} {permissions : List (String × Json)}
    {addresses : List String} (lists : ListsAddresses subject permissions former addresses) :
    hasAccounts subject = true := by
  rw [GrantConversion.hasAccounts, lists.held]
  change (permissions.lookup accountsName).isSome = true
  rw [lists.found]
  rfl

/-- A subject is converted if what a conversion reads can be read, and then its addresses are
copied. -/
theorem convertSubject_of_readable {selected origin : String} {subject former : Json}
    {permissions : List (String × Json)} {addresses : List String} (wellFormed : subject.WellFormed)
    (lists : ListsAddresses subject permissions former addresses)
    (readable : Readable selected permissions former addresses) :
    ∃ after present value, convertSubject selected origin subject = .ok (some after) ∧
      Copied selected origin permissions former addresses after present value := by
  cases result : convertSubject selected origin subject with
  | error finding =>
    obtain ⟨chains, present, reads⟩ := readable
    cases SubjectFault.of_error result with
    | permissions unreadable => exact absurd lists.held (unreadable permissions)
    | within held found fault =>
      cases lists.held.symm.trans held
      cases lists.found.symm.trans found
      exact absurd fault reads.not_fault
  | ok converted =>
    cases converted with
    | none =>
      have lacks := hasAccounts_of_unconverted result
      rw [lists.hasAccounts] at lacks
      contradiction
    | some after =>
      refine ⟨after, ?_⟩
      cases convertSubject_spec wellFormed result with
      | permissions found stored others reads grows writes =>
        cases lists.held.symm.trans found
        cases lists.found.symm.trans reads.found
        cases lists.listed.symm.trans reads.listed
        exact ⟨_, _, rfl, ⟨_, stored, writes⟩, ⟨_, reads, grows⟩⟩

/-- A subject is not converted if something that a conversion reads cannot be read. -/
theorem convertSubject_of_unreadable {selected origin : String} {subject former : Json}
    {permissions : List (String × Json)} {addresses : List String}
    (lists : ListsAddresses subject permissions former addresses)
    (unreadable : ¬ Readable selected permissions former addresses) :
    ∃ finding, convertSubject selected origin subject = .error finding := by
  cases result : convertSubject selected origin subject with
  | error finding => exact ⟨finding, rfl⟩
  | ok converted =>
    obtain ⟨members, inside, granted, rfl, held, inner, -⟩ := convertSubject_eq_ok result
    cases lists.held.symm.trans held
    cases granted with
    | none =>
      have lacks := lookup_of_unconverted inner
      rw [lists.found] at lacks
      contradiction
    | some granted =>
      obtain ⟨other, strings, chains, present, value, reads, -, -⟩ := convertPermissions_eq_ok inner
      cases lists.found.symm.trans reads.found
      cases lists.listed.symm.trans reads.listed
      exact absurd ⟨chains, present, reads⟩ unreadable

/-! ## Accounts that are added -/

/-- An account is added under a key: it is listed there, and was not before. -/
def Adds (present value : Authorization) (key account : String) : Prop :=
  Lists value.optional key account ∧ ¬ Lists present.optional key account

/-- An account that is added is put together from its key and an address of the subject. It is read
as an account exactly if the address is well formed, and then as one of the scope of the key. -/
theorem Copied.of_adds {selected origin : String} {permissions : List (String × Json)}
    {former after : Json} {addresses : List String} {present value : Authorization}
    (copied : Copied selected origin permissions former addresses after present value)
    {key account : String} (adds : Adds present value key account) :
    ∃ address ∈ addresses, account = accountUnder key address ∧
      ∀ parsed, Account.parse account = .ok parsed ↔ Account.isAddress address.toList = true ∧
        Scope.parse? key = some parsed.scope ∧ parsed.address = address := by
  obtain ⟨chains, -, grows⟩ := copied.grows
  obtain ⟨granted, address, member, rfl⟩ :=
    ((grows.accounts key account).1 adds.1).resolve_left adds.2
  refine ⟨address, member, rfl, fun parsed => ?_⟩
  obtain ⟨scope, reads, ethereum⟩ :=
    Scope.isEthereumKey_iff.1 (Authorization.isEthereumKey_of_mem_builtKeys granted)
  rw [accountUnder, Account.parse_underKey_eq_ok_iff reads ethereum, reads]
  refine and_congr_right fun _ => ?_
  constructor
  · rintro rfl
    exact ⟨rfl, rfl⟩
  · rintro ⟨same, rfl⟩
    cases same
    rfl

/-- The addresses of a subject are not checked. Where the selected chain is known, a subject that
lists some is converted and not reported if what a conversion reads can be read, whatever strings
the addresses are, and otherwise it is reported and stays as it was. An account that is added is put
together from its key and an address; it is read as an account exactly if the address is well
formed, and then as one of the scope of the key. -/
theorem addresses_unchecked {controllers : Controllers} {origin selected : String}
    {before former : Json} {permissions : List (String × Json)} {addresses : List String}
    (wellFormed : controllers.WellFormed) (selects : Selects controllers selected)
    (found : subject? controllers origin = some before)
    (lists : ListsAddresses before permissions former addresses) :
    let result := migration.transform controllers
    let reported := ∃ anomaly ∈ result.2, anomaly.finding.origin? = some origin
    (Readable selected permissions former addresses → ¬ reported ∧
      ∃ after present value, subject? result.1 origin = some after ∧
        Copied selected origin permissions former addresses after present value ∧
        ∀ key account, Adds present value key account →
          ∃ address ∈ addresses, account = accountUnder key address ∧
            ∀ parsed, Account.parse account = .ok parsed ↔
              Account.isAddress address.toList = true ∧
                Scope.parse? key = some parsed.scope ∧ parsed.address = address) ∧
      (¬ Readable selected permissions former addresses →
        reported ∧ subject? result.1 origin = some before) := by
  intro result reported
  have inner : before.WellFormed := wellFormed_of_subject? wellFormed found
  obtain ⟨stored, reports⟩ :
      subject? result.1 origin = some (migratedSubject selected origin before) ∧
        (reported ↔ (subjectFinding? selected origin before).isSome = true) :=
    transform_subject wellFormed selects found lists.hasAccounts
  rw [stored, reports]
  constructor
  · intro readable
    obtain ⟨after, present, value, converted, copied⟩ :=
      convertSubject_of_readable inner lists readable
    rw [subjectFinding?, migratedSubject, converted]
    exact ⟨Bool.false_ne_true, after, present, value, rfl, copied,
      fun key account adds => copied.of_adds adds⟩
  · intro unreadable
    obtain ⟨finding, failed⟩ := convertSubject_of_unreadable lists unreadable
    rw [subjectFinding?, migratedSubject, failed]
    exact ⟨rfl, rfl⟩

/-- A subject with a good and a bad address is converted, and nothing is reported about it. -/
theorem addresses_unchecked_beside_good :
    let origin := "https://dapp.example"
    let addresses := ["0xaa", "not an address"]
    let former := Json.object [("caveats", .array [.object
      [("type", .string Permission.accountsCaveat), ("value", .ofStrings addresses)]])]
    let before := Json.object [("permissions", .object [(accountsName, former)])]
    let network := Json.object [("rpcEndpoints", .array [.object
      [("networkClientId", .string "mainnet")]])]
    let controllers : Controllers := Members.ofList [
      (permissionController, .object [("subjects", .object [(origin, before)])]),
      (networkController, .object [("selectedNetworkClientId", .string "mainnet"),
        ("networkConfigurationsByChainId", .object [("0x1", network)])])]
    controllers.WellFormed ∧ Selects controllers "0x1" ∧
      subject? controllers origin = some before ∧
      ListsAddresses before [(accountsName, former)] former addresses ∧
      (¬ ∃ anomaly ∈ (migration.transform controllers).2,
        anomaly.finding.origin? = some origin) ∧
      ∃ after present value, subject? (migration.transform controllers).1 origin = some after ∧
        Copied "0x1" origin [(accountsName, former)] former addresses after present value := by
  intro origin addresses former before network controllers
  have wellFormed : controllers.WellFormed := by decide
  have selects : Selects controllers "0x1" := selectedChain_eq_ok_iff.1 rfl
  have found : subject? controllers origin = some before := rfl
  have lists : ListsAddresses before [(accountsName, former)] former addresses := ⟨rfl, rfl, rfl⟩
  have readable : Readable "0x1" [(accountsName, former)] former addresses :=
    ⟨[1], .empty, rfl, rfl, by decide, ⟨["0x1"], .missing rfl, rfl⟩, .missing rfl⟩
  obtain ⟨converted, -⟩ := addresses_unchecked wellFormed selects found lists
  obtain ⟨quiet, after, present, value, stored, copied, -⟩ := converted readable
  exact ⟨wellFormed, selects, found, lists, quiet, after, present, value, stored, copied⟩

/-- A malformed address is converted: nothing is reported, the subject does not stay as it was, and
what is added for the address is not an account. -/
theorem malformed_address_converted :
    let origin := "https://dapp.example"
    let caveat := Json.object [("type", .string Permission.accountsCaveat),
      ("value", .array [.string "not an address"])]
    let before := Json.object [("permissions", .object [(accountsName,
      .object [("caveats", .array [caveat])])])]
    let network := Json.object [("rpcEndpoints", .array [.object
      [("networkClientId", .string "mainnet")]])]
    let controllers : Controllers := Members.ofList [
      (permissionController, .object [("subjects", .object [(origin, before)])]),
      (networkController, .object [("selectedNetworkClientId", .string "mainnet"),
        ("networkConfigurationsByChainId", .object [("0x1", network)])])]
    let result := migration.transform controllers
    let granted := (subject? result.1 origin).bind (·.get? "permissions")
    let value := (granted.bind (·.get? authorizationName)).bind authorization?
    selectedChain controllers = .ok "0x1" ∧ subject? controllers origin = some before ∧
      Account.isAddress "not an address".toList = false ∧
      result.2 = [] ∧ subject? result.1 origin ≠ some before ∧
      value.bind (·.optional.get? "eip155:1") = some ["eip155:1:not an address"] ∧
      Account.parse? "eip155:1:not an address" = none := by
  intro origin caveat before network controllers result granted value
  refine ⟨rfl, rfl, by decide, rfl, ?_, rfl, by decide⟩
  exact fun same => absurd (congrArg (·.any hasAccounts) same) (by decide)

end GrantConversion

end WalletCore.State
