import WalletCore.Proofs.Authorization.Build
import WalletCore.Proofs.Authorization.Format
import WalletCore.Proofs.State.Versioned
import WalletCore.State.GrantConversion

/-! # Conversions neither lose nor widen an authorization

A subject that is converted ends up with one permission that carries an authorization. It holds what
the subject was authorized to before, and on the wallet and on each chain the addresses of the
former permission for accounts, and nothing else. Every other permission and every other member of
the subject stays as it was. A subject that keeps its former permission is reported.
-/
namespace WalletCore.State.GrantConversion

open Permission (accountsName chainsName authorizationName)

/-- The chain ids of a subject: those that the former permission for chains lists, or the selected
one where it lists none or there is no such permission. -/
inductive ChainIds (selected : String) (permissions : List (String × Json)) :
    List String → Prop where
  /-- There is no former permission for chains. -/
  | missing (absent : permissions.lookup chainsName = none) :
    ChainIds selected permissions [selected]
  /-- The former permission for chains lists none. -/
  | unlisted {permission : Json} (found : permissions.lookup chainsName = some permission)
      (empty : caveatStrings? permission Permission.chainsCaveat = some []) :
    ChainIds selected permissions [selected]
  /-- The former permission for chains lists some. -/
  | listed {permission : Json} {ids : List String}
      (found : permissions.lookup chainsName = some permission)
      (listed : caveatStrings? permission Permission.chainsCaveat = some ids)
      (nonempty : ids ≠ []) :
    ChainIds selected permissions ids

/-- The authorization that a subject has already. -/
inductive Present (permissions : List (String × Json)) : Authorization → Prop where
  /-- It has none. -/
  | missing (absent : permissions.lookup authorizationName = none) : Present permissions .empty
  /-- It is decoded from the caveat of the present permission. -/
  | carried {permission json : Json} {present : Authorization}
      (found : permissions.lookup authorizationName = some permission)
      (value : caveatValue? permission Permission.scopesCaveat = some json)
      (decoded : Authorization.decoder.ofJson json = .ok present) :
    Present permissions present

/-- What a conversion reads in the permissions of a subject. -/
structure Reads (selected : String) (permissions : List (String × Json)) (former : Json)
    (addresses : List String) (chains : List Chain.Id) (present : Authorization) : Prop where
  /-- There is the former permission for accounts. -/
  found : permissions.lookup accountsName = some former
  /-- The addresses are the strings of its caveat. -/
  listed : caveatStrings? former Permission.accountsCaveat = some addresses
  /-- There is an address. -/
  nonempty : addresses ≠ []
  /-- The chains are those of the chain ids. -/
  ids : ∃ ids, ChainIds selected permissions ids ∧ ids.mapM Chain.Id.ofHex = .ok chains
  /-- What is authorized already. -/
  carried : Present permissions present

/-- What a conversion makes of the permissions of the subject of an origin. -/
structure Writes (origin : String) (former : Json) (permissions converted : List (String × Json))
    (value : Authorization) : Prop where
  /-- No permission stands twice. -/
  distinct : (Entries.names converted).Nodup
  /-- The former permission for accounts is gone. -/
  noAccounts : converted.lookup accountsName = none
  /-- The former permission for chains is gone. -/
  noChains : converted.lookup chainsName = none
  /-- The other permissions stay. -/
  others : ∀ name, name ≠ accountsName → name ≠ chainsName → name ≠ authorizationName →
    converted.lookup name = permissions.lookup name
  /-- The permission that carries the authorization has the id and the date of the former one, and
  one caveat. -/
  carried : ∃ permission json, converted.lookup authorizationName = some permission ∧
    permission.get? "parentCapability" = some (.string authorizationName) ∧
    permission.get? "invoker" = some (.string origin) ∧
    permission.get? "id" = former.get? "id" ∧ permission.get? "date" = former.get? "date" ∧
    permission.get? "caveats" = some (.array [.object
      [("type", .string Permission.scopesCaveat), ("value", json)]]) ∧
    Authorization.decoder.ofJson json = .ok value

/-- A part that had to be there was there. -/
theorem partOf_eq_ok {α : Type} {part origin : String} {value : Option α} {found : α} :
    partOf part origin value = .ok found ↔ value = some found := by
  cases value with
  | none => exact iff_of_false (fun absent => by contradiction) nofun
  | some value =>
    constructor
    · intro same
      cases same
      rfl
    · intro same
      cases same
      rfl

/-- A member that is read as an object is an object. -/
theorem objectMember_eq_ok_iff {controller name : String}
    {members found : List (String × Json)} :
    objectMember controller name members = .ok found ↔
      members.lookup name = some (.object found) := by
  unfold objectMember
  split
  · rename_i stored same
    rw [same]
    constructor
    · intro read
      cases read
      rfl
    · intro held
      cases held
      rfl
  · rename_i other
    exact iff_of_false nofun (other found)

/-- The addresses that are read are the strings of the caveat, at least one. -/
theorem addresses?_eq_some {permission : Json} {addresses : List String}
    (read : addresses? permission = some addresses) :
    caveatStrings? permission Permission.accountsCaveat = some addresses ∧ addresses ≠ [] := by
  obtain ⟨listed, nonempty⟩ := Option.filter_eq_some_iff.1 read
  refine ⟨listed, fun empty => ?_⟩
  rw [empty] at nonempty
  contradiction

/-- The permission that is written has these members. -/
theorem newPermission_spec (origin : String) (former : Json) (value : Authorization) :
    (newPermission origin former value).get? "parentCapability" =
        some (.string authorizationName) ∧
      (newPermission origin former value).get? "invoker" = some (.string origin) ∧
      (newPermission origin former value).get? "id" = former.get? "id" ∧
      (newPermission origin former value).get? "date" = former.get? "date" ∧
      (newPermission origin former value).get? "caveats" = some (.array [.object
        [("type", .string Permission.scopesCaveat), ("value", value.toJson)]]) := by
  unfold newPermission
  generalize former.get? "id" = id
  generalize former.get? "date" = date
  refine ⟨rfl, rfl, ?_, ?_, rfl⟩
  · cases id <;> cases date <;> rfl
  · cases id <;> cases date <;> rfl

/-- The chain ids that are read are those of the subject. -/
theorem chainIds_of_chainIds? {selected : String} {permissions : List (String × Json)}
    {ids : List String}
    (read : chainIds? selected (permissions.lookup chainsName) = some ids) :
    ChainIds selected permissions ids := by
  cases found : permissions.lookup chainsName with
  | none =>
    rw [found] at read
    cases read
    exact .missing found
  | some permission =>
    rw [found] at read
    obtain ⟨listed, strings, same⟩ := Option.map_eq_some_iff.1 read
    cases listed with
    | nil =>
      cases same
      exact .unlisted found strings
    | cons first others =>
      cases same
      exact .listed found strings (List.cons_ne_nil first others)

/-- The authorization that is read is the one that the present permission carries. -/
theorem present_of_authorization? {permissions : List (String × Json)} {permission : Json}
    {present : Authorization} (found : permissions.lookup authorizationName = some permission)
    (read : authorization? permission = some present) : Present permissions present := by
  obtain ⟨json, value, decoded⟩ := Option.bind_eq_some_iff.1 read
  exact .carried found value (toOption_eq_some_iff.1 decoded)

/-- The permission that carries the authorization takes the place of the former ones. -/
theorem writes_newPermission (origin : String) (former : Json) (value : Authorization)
    {permissions : List (String × Json)} (distinct : (Entries.names permissions).Nodup) :
    Writes origin former permissions
      (Entries.put authorizationName (newPermission origin former value)
        (Entries.swapRemove chainsName (Entries.swapRemove accountsName permissions))) value := by
  have once : (Entries.names (Entries.swapRemove accountsName permissions)).Nodup :=
    Entries.nodup_swapRemove distinct
  have apart : chainsName ≠ authorizationName ∧ accountsName ≠ authorizationName ∧
      accountsName ≠ chainsName := by decide
  obtain ⟨chainsApart, accountsApart, formerApart⟩ := apart
  refine ⟨Entries.nodup_put (Entries.nodup_swapRemove once), ?_, ?_, ?_, ?_⟩
  · rw [Entries.lookup_put, if_neg accountsApart, Entries.lookup_swapRemove _ _ once,
      if_neg formerApart, Entries.lookup_swapRemove _ _ distinct, if_pos rfl]
  · rw [Entries.lookup_put, if_neg chainsApart, Entries.lookup_swapRemove _ _ once, if_pos rfl]
  · intro name notAccounts notChains notAuthorization
    rw [Entries.lookup_put, if_neg notAuthorization, Entries.lookup_swapRemove _ _ once,
      if_neg notChains, Entries.lookup_swapRemove _ _ distinct, if_neg notAccounts]
  · obtain ⟨capability, invoker, id, date, caveats⟩ := newPermission_spec origin former value
    refine ⟨newPermission origin former value, value.toJson, ?_, capability, invoker, id, date,
      caveats, Authorization.decoder_toJson value⟩
    rw [Entries.lookup_put, if_pos rfl]

/-- A conversion reads the former permissions and the present one, and puts one permission in their
place that carries what was authorized with the addresses on the chains added. -/
theorem convertPermissions_eq_ok {selected origin : String}
    {permissions converted : List (String × Json)}
    (succeeded : convertPermissions selected origin permissions = .ok (some converted)) :
    ∃ former addresses chains present value,
      Reads selected permissions former addresses chains present ∧
        Authorization.Extends present value addresses chains ∧
        converted = Entries.put authorizationName (newPermission origin former value)
          (Entries.swapRemove chainsName (Entries.swapRemove accountsName permissions)) := by
  unfold convertPermissions at succeeded
  cases found : permissions.lookup accountsName with
  | none =>
    simp only [found] at succeeded
    cases succeeded
  | some former =>
    simp only [found] at succeeded
    obtain ⟨addresses, readAddresses, succeeded⟩ := bind_eq_ok_iff.1 succeeded
    obtain ⟨ids, readIds, succeeded⟩ := bind_eq_ok_iff.1 succeeded
    obtain ⟨built, build, succeeded⟩ := bind_eq_ok_iff.1 succeeded
    obtain ⟨listed, nonempty⟩ := addresses?_eq_some (partOf_eq_ok.1 readAddresses)
    have idsRead := chainIds_of_chainIds? (partOf_eq_ok.1 readIds)
    obtain ⟨chains, parsed, grants⟩ := Authorization.build_eq_ok (mapError_eq_ok_iff.1 build)
    cases held : permissions.lookup authorizationName with
    | none =>
      simp only [held] at succeeded
      obtain ⟨value, same, succeeded⟩ := bind_eq_ok_iff.1 succeeded
      cases same
      cases succeeded
      have reads : Reads selected permissions former addresses chains .empty :=
        ⟨found, listed, nonempty, ⟨ids, idsRead, parsed⟩, .missing held⟩
      exact ⟨former, addresses, chains, .empty, built, reads, grants.extends_empty, rfl⟩
    | some current =>
      simp only [held] at succeeded
      obtain ⟨present, readPresent, succeeded⟩ := bind_eq_ok_iff.1 succeeded
      obtain ⟨value, same, succeeded⟩ := bind_eq_ok_iff.1 succeeded
      cases same
      cases succeeded
      have carried := present_of_authorization? held (partOf_eq_ok.1 readPresent)
      have reads : Reads selected permissions former addresses chains present :=
        ⟨found, listed, nonempty, ⟨ids, idsRead, parsed⟩, carried⟩
      exact ⟨former, addresses, chains, present, present.merge built, reads,
        grants.extends_merge present, rfl⟩

/-- A conversion reads the former permissions and the present one, and writes what was authorized
with the addresses on the chains added. -/
theorem convertPermissions_spec {selected origin : String}
    {permissions converted : List (String × Json)}
    (distinct : (Entries.names permissions).Nodup)
    (succeeded : convertPermissions selected origin permissions = .ok (some converted)) :
    ∃ former addresses chains present value,
      Reads selected permissions former addresses chains present ∧
        Authorization.Extends present value addresses chains ∧
        Writes origin former permissions converted value := by
  obtain ⟨former, addresses, chains, present, value, reads, grows, rfl⟩ :=
    convertPermissions_eq_ok succeeded
  exact ⟨former, addresses, chains, present, value, reads, grows,
    writes_newPermission origin former value distinct⟩

/-- A subject of an origin before and after its conversion. -/
inductive Converted (selected origin : String) : Json → Json → Prop where
  /-- Its permissions were converted, and its other members stayed. -/
  | permissions {members converted permissions granted : List (String × Json)} {former : Json}
      {addresses : List String} {chains : List Chain.Id} {present value : Authorization}
      (found : members.lookup "permissions" = some (.object permissions))
      (stored : converted.lookup "permissions" = some (.object granted))
      (others : ∀ name, name ≠ "permissions" → converted.lookup name = members.lookup name)
      (reads : Reads selected permissions former addresses chains present)
      (grows : Authorization.Extends present value addresses chains)
      (writes : Writes origin former permissions granted value) :
    Converted selected origin (.object members) (.object converted)

/-- Where no permission is converted, there is no former permission for accounts. -/
theorem lookup_of_unconverted {selected origin : String} {permissions : List (String × Json)}
    (nothing : convertPermissions selected origin permissions = .ok none) :
    permissions.lookup accountsName = none := by
  unfold convertPermissions at nothing
  cases found : permissions.lookup accountsName with
  | none => rfl
  | some former =>
    simp only [found] at nothing
    obtain ⟨addresses, -, nothing⟩ := bind_eq_ok_iff.1 nothing
    obtain ⟨ids, -, nothing⟩ := bind_eq_ok_iff.1 nothing
    obtain ⟨built, -, nothing⟩ := bind_eq_ok_iff.1 nothing
    split at nothing
    · cases nothing
    · obtain ⟨present, -, nothing⟩ := bind_eq_ok_iff.1 nothing
      cases nothing

/-- A subject is converted in its permissions, which it has. -/
theorem convertSubject_eq_ok {selected origin : String} {subject : Json} {result : Option Json}
    (succeeded : convertSubject selected origin subject = .ok result) :
    ∃ members permissions converted, subject = .object members ∧
      members.lookup "permissions" = some (.object permissions) ∧
      convertPermissions selected origin permissions = .ok converted ∧
      result = converted.map fun permissions =>
        .object (Entries.put "permissions" (.object permissions) members) := by
  unfold convertSubject at succeeded
  split at succeeded
  · rename_i members
    split at succeeded
    · rename_i permissions found
      obtain ⟨converted, inner, same⟩ := bind_eq_ok_iff.1 succeeded
      cases same
      exact ⟨members, permissions, converted, rfl, found, inner, rfl⟩
    · contradiction
  · contradiction

/-- A subject that is converted is converted in its permissions only. -/
theorem convertSubject_spec {selected origin : String} {subject after : Json}
    (wellFormed : subject.WellFormed)
    (succeeded : convertSubject selected origin subject = .ok (some after)) :
    Converted selected origin subject after := by
  obtain ⟨members, permissions, converted, rfl, found, inner, same⟩ :=
    convertSubject_eq_ok succeeded
  obtain ⟨granted, rfl, rfl⟩ := Option.map_eq_some_iff.1 same.symm
  have distinct := (wellFormed.lookup found).distinct
  obtain ⟨former, addresses, chains, present, value, reads, grows, writes⟩ :=
    convertPermissions_spec distinct inner
  refine .permissions found ?_ ?_ reads grows writes
  · rw [Entries.lookup_put, if_pos rfl]
  · intro name different
    rw [Entries.lookup_put, if_neg different]

/-- A subject in which there is nothing to convert does not have the former permission. -/
theorem hasAccounts_of_unconverted {selected origin : String} {subject : Json}
    (nothing : convertSubject selected origin subject = .ok none) :
    hasAccounts subject = false := by
  obtain ⟨members, permissions, converted, rfl, found, inner, same⟩ :=
    convertSubject_eq_ok nothing
  rw [Option.map_eq_none_iff.1 same.symm] at inner
  have lacks := lookup_of_unconverted inner
  simp [hasAccounts, Json.get?, Json.asObject?, found, lacks]

/-- A subject after the migration is converted, or it is as it was and, if it has the former
permission for accounts, there is a reason for it. -/
theorem migratedSubject_spec (selected origin : String) {subject : Json}
    (wellFormed : subject.WellFormed) :
    Converted selected origin subject (migratedSubject selected origin subject) ∨
      (migratedSubject selected origin subject = subject ∧ (hasAccounts subject = true →
        ∃ finding, convertSubject selected origin subject = .error finding)) := by
  unfold migratedSubject
  cases outcome : convertSubject selected origin subject with
  | error finding => exact .inr ⟨rfl, fun _ => ⟨finding, rfl⟩⟩
  | ok converted =>
    cases converted with
    | some after => exact .inl (convertSubject_spec wellFormed outcome)
    | none =>
      have lacks := hasAccounts_of_unconverted outcome
      refine .inr ⟨rfl, fun has => ?_⟩
      rw [lacks] at has
      contradiction

/-- The subject of an origin in the states of the controllers. -/
def subject? (controllers : Controllers) (origin : String) : Option Json := do
  let controller ← controllers.get? permissionController
  (← controller.get? "subjects").get? origin

/-- A subject is listed among the subjects of the controller of the permissions. -/
theorem subject?_eq_some_iff {controllers : Controllers} {origin : String} {subject : Json} :
    subject? controllers origin = some subject ↔
      ∃ controller subjects, controllers.get? permissionController = some (.object controller) ∧
        controller.lookup "subjects" = some (.object subjects) ∧
        subjects.lookup origin = some subject := by
  constructor
  · intro found
    obtain ⟨root, held, inside⟩ := Option.bind_eq_some_iff.1 found
    obtain ⟨inner, inRoot, inInner⟩ := Option.bind_eq_some_iff.1 inside
    obtain ⟨controller, rfl, nested⟩ := Json.get?_eq_some_iff.1 inRoot
    obtain ⟨subjects, rfl, listed⟩ := Json.get?_eq_some_iff.1 inInner
    exact ⟨controller, subjects, held, nested, listed⟩
  · rintro ⟨controller, subjects, held, nested, listed⟩
    rw [subject?, held]
    change ((controller.lookup "subjects").bind fun inner => inner.get? origin) = _
    rw [nested]
    exact listed

/-- Every subject of a well-formed state is well formed. -/
theorem wellFormed_of_subject? {controllers : Controllers} {origin : String} {subject : Json}
    (wellFormed : controllers.WellFormed) (found : subject? controllers origin = some subject) :
    subject.WellFormed := by
  obtain ⟨controller, subjects, held, nested, listed⟩ := subject?_eq_some_iff.1 found
  have root : Json.WellFormed (.object controller) := wellFormed _ (Entries.mem_of_lookup held)
  exact (root.lookup nested).lookup listed

/-- The subject of an origin after the subjects of the controller were converted. -/
theorem subject?_convertIn {controllers : Controllers} (selected : String)
    {controller subjects : List (String × Json)} (origin : String) :
    subject?
        (controllers.put permissionController (.object (convertIn selected controller subjects)))
        origin =
      (subjects.lookup origin).map (migratedSubject selected origin) := by
  unfold subject?
  rw [Members.get?_put, if_pos rfl]
  change ((convertIn selected controller subjects).lookup "subjects").bind (·.get? origin) = _
  rw [convertIn, Entries.lookup_put, if_pos rfl]
  exact Entries.lookup_map (migratedSubject selected) subjects origin

/-- No authorization is lost or widened: a subject is converted, or it stays as it was and, if it
has the former permission, the reason is reported. -/
theorem converted_or_reported (controllers : Controllers) {origin : String} {before : Json}
    (found : subject? controllers origin = some before) (wellFormed : before.WellFormed) :
    ∃ after, subject? (migration.transform controllers).1 origin = some after ∧
      ((∃ selected, selectedChain controllers = .ok selected ∧
          Converted selected origin before after) ∨
        (after = before ∧ (hasAccounts before = true →
          ∃ finding, ⟨147, finding⟩ ∈ (migration.transform controllers).2 ∧
            (selectedChain controllers = .error finding ∨
              ∃ selected, selectedChain controllers = .ok selected ∧
                convertSubject selected origin before = .error finding)))) := by
  obtain ⟨controller, subjects, held, nested, listed⟩ := subject?_eq_some_iff.1 found
  have member := Entries.mem_of_lookup listed
  have read : objectMember permissionController "subjects" controller = .ok subjects := by
    unfold objectMember
    rw [nested]
  simp only [migration, Migration.transform_ofFindings, transform, held, read]
  by_cases affected : (subjects.any fun entry => hasAccounts entry.2) = true
  · rw [if_pos affected]
    cases reached : selectedChain controllers with
    | error finding =>
      refine ⟨before, found, .inr ⟨rfl, fun _ => ?_⟩⟩
      exact ⟨finding, List.mem_map_of_mem (List.mem_singleton_self _), .inl rfl⟩
    | ok selected =>
      simp only [subject?_convertIn, listed, Option.map_some]
      refine ⟨migratedSubject selected origin before, rfl, ?_⟩
      rcases migratedSubject_spec selected origin wellFormed with converted | ⟨same, failed⟩
      · exact .inl ⟨selected, rfl, converted⟩
      · refine .inr ⟨same, fun has => ?_⟩
        obtain ⟨finding, outcome⟩ := failed has
        have reported : subjectFinding? selected origin before = some finding := by
          rw [subjectFinding?, outcome]
        refine ⟨finding, ?_, .inr ⟨selected, rfl, outcome⟩⟩
        exact List.mem_map_of_mem (List.mem_filterMap.2 ⟨_, member, reported⟩)
  · rw [if_neg affected]
    refine ⟨before, found, .inr ⟨rfl, fun has => ?_⟩⟩
    exact absurd (List.any_eq_true.2 ⟨_, member, has⟩) affected

/-- A subject that lists an address and no chains is converted for the chain of the selected
network. -/
theorem converted_or_reported_on_selected :
    let origin := "https://dapp.example"
    let caveat := Json.object [("type", .string Permission.accountsCaveat),
      ("value", .array [.string "0xaa"])]
    let before := Json.object [("permissions", .object [(accountsName,
      .object [("caveats", .array [caveat])])])]
    let network := Json.object [("rpcEndpoints", .array [.object
      [("networkClientId", .string "mainnet")]])]
    let controllers : Controllers := Members.ofList [
      (permissionController, .object [("subjects", .object [(origin, before)])]),
      (networkController, .object [("selectedNetworkClientId", .string "mainnet"),
        ("networkConfigurationsByChainId", .object [("0x1", network)])])]
    subject? controllers origin = some before ∧ before.WellFormed ∧
      ∃ after, subject? (migration.transform controllers).1 origin = some after ∧
        Converted "0x1" origin before after := by
  intro origin caveat before network controllers
  have found : subject? controllers origin = some before := rfl
  have wellFormed : before.WellFormed := by
    refine .object (by decide) (List.forall_mem_singleton.2 (.object (by decide) ?_))
    refine List.forall_mem_singleton.2 (.object (by decide) (List.forall_mem_singleton.2 ?_))
    refine .array (List.forall_mem_singleton.2 (.object (by decide) ?_))
    refine List.forall_mem_cons.2 ⟨.string _, List.forall_mem_singleton.2 (.array ?_)⟩
    exact List.forall_mem_singleton.2 (.string _)
  have quiet : (migration.transform controllers).2 = [] := rfl
  have chain : selectedChain controllers = .ok "0x1" := rfl
  obtain ⟨after, stored, outcome⟩ := converted_or_reported controllers found wellFormed
  refine ⟨found, wellFormed, after, stored, ?_⟩
  rcases outcome with ⟨selected, reached, converted⟩ | ⟨-, reported⟩
  · rw [chain] at reached
    cases reached
    exact converted
  · obtain ⟨finding, member, -⟩ := reported rfl
    rw [quiet] at member
    exact absurd member List.not_mem_nil

end WalletCore.State.GrantConversion
