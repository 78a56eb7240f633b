import WalletCore.Proofs.State.GrantConversion

/-! # Conversions are atomic and account for every failure

Nothing is touched where there is nothing to convert, and one finding is all that happens where the
subjects or the selected chain cannot be read. Otherwise each subject is dealt with on its own: it
is converted, or it stays as it was. It is reported exactly if there is a fault in it, once, with
one of its faults.

A fault is stated in terms of what stands in the subject (`Fault`). A conversion that fails names
one (`SubjectFault.of_error`), and one that succeeds leaves no room for any
(`SubjectFault.not_of_ok`).
-/
namespace WalletCore.State.GrantConversion

open Permission (accountsName chainsName authorizationName)

/-! ## The selected chain -/

/-- Whether a network has an endpoint of a client. -/
def Serves (client : String) (network : Json) : Prop :=
  ∃ endpoints, network.get? "rpcEndpoints" = some (.array endpoints) ∧
    ∃ endpoint ∈ endpoints, endpoint.get? "networkClientId" = some (.string client)

/-- The selected chain is the first one whose network has an endpoint of the selected client. -/
inductive Selects (controllers : Controllers) (chainId : String) : Prop where
  /-- The controller of the networks names the client, and lists the networks by their chains. -/
  | configured {controller earlier later : List (String × Json)} {client : String} {network : Json}
      (held : controllers.get? networkController = some (.object controller))
      (selected : controller.lookup "selectedNetworkClientId" = some (.string client))
      (listed : controller.lookup "networkConfigurationsByChainId" =
        some (.object (earlier ++ (chainId, network) :: later)))
      (serves : Serves client network)
      (first : ∀ entry ∈ earlier, ¬ Serves client entry.2) :
    Selects controllers chainId

/-- An endpoint belongs to the client that it names. -/
theorem servesClient_iff {client : String} {endpoint : Json} :
    servesClient client endpoint = true ↔
      endpoint.get? "networkClientId" = some (.string client) := by
  simp [servesClient, Option.bind_eq_some_iff, Json.asString?_eq_some_iff]

/-- The endpoints of a network are searched for one of the client. -/
theorem hasClient_iff {client : String} {network : Json} :
    hasClient client network = true ↔ Serves client network := by
  simp [hasClient, Serves, Option.any_eq_true, Option.bind_eq_some_iff, Json.asArray?_eq_some_iff,
    servesClient_iff]

/-- The chain that is read is the selected one. -/
theorem selectedChain_eq_ok_iff {controllers : Controllers} {chainId : String} :
    selectedChain controllers = .ok chainId ↔ Selects controllers chainId := by
  constructor
  · intro read
    unfold selectedChain at read
    split at read
    · rename_i controller held
      split at read
      · rename_i client selected
        obtain ⟨networks, listed, read⟩ := bind_eq_ok_iff.1 read
        rw [objectMember_eq_ok_iff] at listed
        split at read
        · rename_i id network found
          cases read
          obtain ⟨serves, earlier, later, rfl, first⟩ := List.find?_eq_some_iff_append.1 found
          refine .configured held selected listed (hasClient_iff.1 serves) ?_
          intro entry member served
          have passed := first entry member
          rw [hasClient_iff.2 served] at passed
          contradiction
        · contradiction
      · contradiction
    · contradiction
  · intro selects
    cases selects with
    | @configured controller earlier later client network held selected listed serves first =>
      have passed : ∀ entry ∈ earlier, (!hasClient client entry.2) = true := by
        intro entry member
        rw [Bool.not_eq_true', Bool.eq_false_iff]
        exact fun has => first entry member (hasClient_iff.1 has)
      have found : (earlier ++ (chainId, network) :: later).find?
          (fun entry => hasClient client entry.2) = some (chainId, network) :=
        List.find?_eq_some_iff_append.2 ⟨hasClient_iff.2 serves, earlier, later, rfl, passed⟩
      simp only [selectedChain, held, selected]
      refine bind_eq_ok_iff.2 ⟨_, objectMember_eq_ok_iff.2 listed, ?_⟩
      rw [found]

/-! ## Faults of a subject -/

/-- What is wrong with the permissions of a subject that has the former permission for accounts. -/
inductive Fault (selected origin : String) (permissions : List (String × Json)) (former : Json) :
    Finding → Prop where
  /-- The addresses cannot be read, or there are none. -/
  | addresses (unreadable : ∀ addresses,
      caveatStrings? former Permission.accountsCaveat = some addresses → addresses = []) :
    Fault selected origin permissions former (.invalidPart "eth_accounts caveat" origin)
  /-- The chain ids cannot be read. -/
  | chains {permission : Json} (found : permissions.lookup chainsName = some permission)
      (unreadable : caveatStrings? permission Permission.chainsCaveat = none) :
    Fault selected origin permissions former (.invalidPart "permitted-chains caveat" origin)
  /-- A chain id is malformed. -/
  | chainId {ids : List String} {id : String} {cause : Permission.Error}
      (listed : ChainIds selected permissions ids) (member : id ∈ ids)
      (malformed : Chain.Id.ofHex id = .error cause) :
    Fault selected origin permissions former (.inconvertible origin cause)
  /-- What the subject is authorized to already cannot be decoded. -/
  | present {permission : Json} (found : permissions.lookup authorizationName = some permission)
      (undecodable : ∀ json, caveatValue? permission Permission.scopesCaveat = some json →
        ∀ value, Authorization.decoder.ofJson json ≠ .ok value) :
    Fault selected origin permissions former (.invalidPart "endowment:caip25 caveat" origin)

/-- What is wrong with a subject. -/
inductive SubjectFault (selected origin : String) (subject : Json) : Finding → Prop where
  /-- Its permissions are not an object. -/
  | permissions
      (unreadable : ∀ permissions, subject.get? "permissions" ≠ some (.object permissions)) :
    SubjectFault selected origin subject (.invalidPart "permissions" origin)
  /-- It has the former permission for accounts, and there is a fault in the permissions. -/
  | within {permissions : List (String × Json)} {former : Json} {finding : Finding}
      (held : subject.get? "permissions" = some (.object permissions))
      (found : permissions.lookup accountsName = some former)
      (fault : Fault selected origin permissions former finding) :
    SubjectFault selected origin subject finding

/-- A part is missed if it is not there. -/
theorem partOf_eq_error {α : Type} {part origin : String} {value : Option α} {finding : Finding}
    (failed : partOf part origin value = .error finding) :
    value = none ∧ finding = .invalidPart part origin := by
  cases value with
  | none =>
    cases failed
    exact ⟨rfl, rfl⟩
  | some value => contradiction

/-- Addresses that are not read cannot be read, or there are none. -/
theorem addresses?_eq_none {permission : Json} (unread : addresses? permission = none)
    {addresses : List String}
    (listed : caveatStrings? permission Permission.accountsCaveat = some addresses) :
    addresses = [] := by
  unfold addresses? at unread
  rw [listed] at unread
  cases addresses with
  | nil => rfl
  | cons first others => contradiction

/-- Chain ids that are not read stand in a former permission for chains. -/
theorem chainIds?_eq_none {selected : String} {permission : Option Json}
    (unread : chainIds? selected permission = none) :
    ∃ former, permission = some former ∧
      caveatStrings? former Permission.chainsCaveat = none := by
  cases permission with
  | none => contradiction
  | some former => exact ⟨former, rfl, Option.map_eq_none_iff.1 unread⟩

/-- An authorization that is not read cannot be decoded. -/
theorem authorization?_eq_none {permission json : Json} (unread : authorization? permission = none)
    (stored : caveatValue? permission Permission.scopesCaveat = some json) (value : Authorization) :
    Authorization.decoder.ofJson json ≠ .ok value := by
  intro decoded
  simp only [authorization?, stored, Option.bind_eq_bind, Option.bind_some, decoded] at unread
  contradiction

/-- The chain ids of a subject are those that are read. -/
theorem ChainIds.read {selected : String} {permissions : List (String × Json)} {ids : List String}
    (listed : ChainIds selected permissions ids) :
    chainIds? selected (permissions.lookup chainsName) = some ids := by
  cases listed with
  | missing absent =>
    rw [absent]
    rfl
  | unlisted found empty =>
    rw [found, chainIds?, empty]
    rfl
  | listed found strings nonempty =>
    rw [found, chainIds?, strings]
    have notEmpty : ids.isEmpty = false := List.isEmpty_eq_false_iff.2 nonempty
    simp only [Option.map_some, notEmpty, Bool.false_eq_true, ↓reduceIte]

/-- Where the permissions cannot be converted there is a fault in them. -/
theorem Fault.of_error {selected origin : String} {permissions : List (String × Json)}
    {finding : Finding}
    (failed : convertPermissions selected origin permissions = .error finding) :
    ∃ former, permissions.lookup accountsName = some former ∧
      Fault selected origin permissions former finding := by
  unfold convertPermissions at failed
  cases found : permissions.lookup accountsName with
  | none =>
    simp only [found] at failed
    contradiction
  | some former =>
    simp only [found] at failed
    refine ⟨former, rfl, ?_⟩
    rcases bind_eq_error_iff.1 failed with noAddresses | ⟨addresses, -, failed⟩
    · obtain ⟨unread, rfl⟩ := partOf_eq_error noAddresses
      exact .addresses fun addresses => addresses?_eq_none unread
    rcases bind_eq_error_iff.1 failed with noIds | ⟨ids, readIds, failed⟩
    · obtain ⟨unread, rfl⟩ := partOf_eq_error noIds
      obtain ⟨permission, held, unreadable⟩ := chainIds?_eq_none unread
      exact .chains held unreadable
    rcases bind_eq_error_iff.1 failed with unbuilt | ⟨built, -, failed⟩
    · obtain ⟨cause, refused, rfl⟩ := mapError_eq_error_iff.1 unbuilt
      obtain ⟨id, member, malformed⟩ := Authorization.build_eq_error refused
      exact .chainId (chainIds_of_chainIds? (partOf_eq_ok.1 readIds)) member malformed
    cases held : permissions.lookup authorizationName with
    | none =>
      simp only [held] at failed
      rcases bind_eq_error_iff.1 failed with impossible | ⟨_, -, impossible⟩
      · contradiction
      · contradiction
    | some permission =>
      simp only [held] at failed
      rcases bind_eq_error_iff.1 failed with noPresent | ⟨present, -, failed⟩
      · obtain ⟨unread, rfl⟩ := partOf_eq_error noPresent
        exact .present held fun json stored => authorization?_eq_none unread stored
      rcases bind_eq_error_iff.1 failed with impossible | ⟨_, -, impossible⟩
      · contradiction
      · contradiction

/-- There is no fault in permissions that a conversion reads. -/
theorem Reads.not_fault {selected origin : String} {permissions : List (String × Json)}
    {former : Json} {addresses : List String} {chains : List Chain.Id} {present : Authorization}
    (reads : Reads selected permissions former addresses chains present) {finding : Finding} :
    ¬ Fault selected origin permissions former finding := by
  obtain ⟨ids, listed, parsed⟩ := reads.ids
  intro fault
  cases fault with
  | addresses unreadable => exact reads.nonempty (unreadable addresses reads.listed)
  | chains found unreadable =>
    have read := listed.read
    rw [found, chainIds?, unreadable] at read
    contradiction
  | chainId again member malformed =>
    have same : some _ = some ids := again.read.symm.trans listed.read
    cases same
    obtain ⟨chain, wellFormed⟩ := exists_ok_of_mapM parsed member
    rw [wellFormed] at malformed
    contradiction
  | present found undecodable =>
    cases reads.carried with
    | missing absent =>
      rw [absent] at found
      contradiction
    | carried stored value decoded =>
      rw [stored] at found
      cases found
      exact undecodable _ value _ decoded

/-- Where a subject cannot be converted there is a fault in it. -/
theorem SubjectFault.of_error {selected origin : String} {subject : Json} {finding : Finding}
    (failed : convertSubject selected origin subject = .error finding) :
    SubjectFault selected origin subject finding := by
  unfold convertSubject at failed
  split at failed
  · rename_i members
    split at failed
    · rename_i permissions held
      rcases bind_eq_error_iff.1 failed with inner | ⟨converted, -, impossible⟩
      · obtain ⟨former, found, fault⟩ := Fault.of_error inner
        exact .within held found fault
      · contradiction
    · rename_i other
      cases failed
      exact .permissions other
  · rename_i other
    cases failed
    refine .permissions fun permissions held => ?_
    obtain ⟨members, same, -⟩ := Json.get?_eq_some_iff.1 held
    exact other members same

/-- What becomes of a subject: its value after the migration, and what is reported about it. -/
inductive Outcome (selected origin : String) (before : Json) : Json → Option Finding → Prop where
  /-- It is converted. -/
  | converted {after : Json} (converted : Converted selected origin before after)
      (sound : ∀ finding, ¬ SubjectFault selected origin before finding) :
    Outcome selected origin before after none
  /-- There is nothing to convert. -/
  | kept (lacks : hasAccounts before = false)
      (sound : ∀ finding, ¬ SubjectFault selected origin before finding) :
    Outcome selected origin before before none
  /-- A fault is reported. -/
  | reported {finding : Finding} (fault : SubjectFault selected origin before finding) :
    Outcome selected origin before before (some finding)

/-- Whether there is nothing to convert. -/
inductive Idle (controllers : Controllers) : Prop where
  /-- There is no controller of the permissions. -/
  | absent (missing : controllers.get? permissionController = none)
  /-- No subject has the former permission for accounts. -/
  | without {controller subjects : List (String × Json)}
      (held : controllers.get? permissionController = some (.object controller))
      (nested : controller.lookup "subjects" = some (.object subjects))
      (unaffected : ∀ entry ∈ subjects, hasAccounts entry.2 = false)

/-- Nothing happens where there is nothing to convert. -/
theorem transform_of_idle {controllers : Controllers} (idle : Idle controllers) :
    transform controllers = (controllers, []) := by
  cases idle with
  | absent missing => simp only [transform, missing]
  | @without controller subjects held nested unaffected =>
    have nobody : ¬ (subjects.any fun entry => hasAccounts entry.2) = true := by
      intro affected
      obtain ⟨entry, member, has⟩ := List.any_eq_true.1 affected
      rw [unaffected entry member] at has
      contradiction
    simp only [transform, held, objectMember_eq_ok_iff.2 nested]
    rw [if_neg nobody]

/-- The subjects are converted one by one for the selected chain. -/
theorem transform_of_selects {controllers : Controllers}
    {controller subjects : List (String × Json)} {entry : String × Json} {selected : String}
    (held : controllers.get? permissionController = some (.object controller))
    (nested : controller.lookup "subjects" = some (.object subjects))
    (member : entry ∈ subjects) (has : hasAccounts entry.2 = true)
    (selects : Selects controllers selected) :
    transform controllers =
      (controllers.put permissionController (.object (convertIn selected controller subjects)),
        subjects.filterMap fun entry => subjectFinding? selected entry.1 entry.2) := by
  have affected : (subjects.any fun entry => hasAccounts entry.2) = true :=
    List.any_eq_true.2 ⟨entry, member, has⟩
  simp only [transform, held, objectMember_eq_ok_iff.2 nested, selectedChain_eq_ok_iff.2 selects]
  rw [if_pos affected]

end WalletCore.State.GrantConversion
