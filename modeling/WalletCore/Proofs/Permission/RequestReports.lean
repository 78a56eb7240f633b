import Mathlib.Data.List.Forall2
import WalletCore.Permission.Validation
import WalletCore.Proofs.Chain.Grammar
import WalletCore.Proofs.Json.WellFormed
import WalletCore.Proofs.Text.Positional

/-! # What the checks of requests report

The check of requested accounts asks the wallet once for its accounts, in whatever monad the wallet
lives, and not at all if the value has the wrong shape. The check of requested chains looks up one
item after another, whatever the item is, and a wallet that remembers was asked for just the items
up to the one that is named. Both verdicts are settled by where a walk over the items stops
(`StopsAt`): at the first address that is none of the wallet's, or at the first chain id without a
network client (`requests_reported_exactly`).
-/
namespace WalletCore.Permission

/-! ## Letters of either case -/

/-- Whether two characters are the same, but for the case of a Latin letter. -/
def SameLetter (left right : Char) : Prop :=
  left = right ∨ (Chain.Capital left ∧ right.toNat = left.toNat + 32) ∨
    (Chain.Capital right ∧ left.toNat = right.toNat + 32)

/-- Whether two texts are the same, but for the case of Latin letters. -/
def SameLetters (left right : String) : Prop :=
  List.Forall₂ SameLetter left.toList right.toList

/-- Two characters have the same lower case exactly if they are the same but for their case. -/
theorem toLower_eq_toLower_iff {left right : Char} :
    left.toLower = right.toLower ↔ SameLetter left right := by
  have bounds : ∀ {char : Char}, Chain.Capital char ↔ 65 ≤ char.toNat ∧ char.toNat ≤ 90 := Iff.rfl
  rw [SameLetter, ← Char.toNat_inj, ← Char.toNat_inj, Text.toNat_toLower, Text.toNat_toLower]
  simp only [bounds]
  split <;> split <;> omega

/-- Two addresses are compared by their letters, without regard to case. -/
theorem sameAddress_iff {left right : String} :
    sameAddress left right = true ↔ SameLetters left right := by
  have lowered : ∀ text : String, text.toLower.toList = text.toList.map Char.toLower :=
    fun _ => String.toList_map
  rw [sameAddress, decide_eq_true_iff, ← String.toList_inj, lowered, lowered,
    ← List.forall₂_eq_eq_eq, List.forall₂_map_left_iff, List.forall₂_map_right_iff, SameLetters]
  simp only [toLower_eq_toLower_iff]

/-! ## Where a walk stops -/

/-- Whether each of some texts passes a test that may depend on those before it. -/
def AllPass (passes : List String → String → Prop) (texts : List String) : Prop :=
  ∀ before text, before ++ [text] <+: texts → passes before text

/-- Whether the first of some texts that does not pass a test is `text`, behind those `before`
it. -/
structure StopsAt (passes : List String → String → Prop) (texts before : List String)
    (text : String) : Prop where
  /-- The texts start with those before it and with it. -/
  starts : before ++ [text] <+: texts
  /-- Those before it pass. -/
  passed : AllPass passes before
  /-- It does not pass. -/
  fails : ¬ passes before text

/-- No text fails among none. -/
theorem allPass_nil {passes : List String → String → Prop} : AllPass passes [] := by
  intro before text starts
  have shorter := starts.length_le
  simp at shorter

/-- Texts pass if the first one does, and the others do behind it. -/
theorem allPass_cons_iff {passes : List String → String → Prop} {first : String}
    {others : List String} :
    AllPass passes (first :: others) ↔
      passes [] first ∧ AllPass (fun before => passes (first :: before)) others := by
  constructor
  · intro pass
    refine ⟨pass [] first ⟨others, rfl⟩, fun before text starts => ?_⟩
    exact pass (first :: before) text (List.cons_prefix_cons.2 ⟨rfl, starts⟩)
  · intro ⟨here, later⟩ before text starts
    cases before with
    | nil =>
      obtain ⟨same, -⟩ := List.cons_prefix_cons.1 starts
      exact same ▸ here
    | cons front before =>
      obtain ⟨same, starts⟩ := List.cons_prefix_cons.1 starts
      exact same ▸ later before text starts

/-- A test that does not depend on what came before is passed by each of the texts. -/
theorem allPass_const_iff {passes : String → Prop} {texts : List String} :
    AllPass (fun _ => passes) texts ↔ ∀ text ∈ texts, passes text := by
  induction texts with
  | nil => exact iff_of_true allPass_nil (List.forall_mem_nil _)
  | cons first others ih => rw [allPass_cons_iff, List.forall_mem_cons, ih]

/-- A walk over texts that do not all pass stops at one of them. -/
theorem exists_stopsAt {passes : List String → String → Prop} {texts : List String}
    (stopped : ¬ AllPass passes texts) : ∃ before text, StopsAt passes texts before text := by
  induction texts generalizing passes with
  | nil => exact absurd allPass_nil stopped
  | cons first others ih =>
    by_cases here : passes [] first
    · have later : ¬ AllPass (fun before => passes (first :: before)) others := fun each =>
        stopped (allPass_cons_iff.2 ⟨here, each⟩)
      obtain ⟨before, text, ⟨starts, passed, fails⟩⟩ := ih later
      have longer : first :: before ++ [text] <+: first :: others :=
        List.cons_prefix_cons.2 ⟨rfl, starts⟩
      exact ⟨first :: before, text, longer, allPass_cons_iff.2 ⟨here, passed⟩, fails⟩
    · exact ⟨[], first, ⟨others, rfl⟩, allPass_nil, here⟩

/-! ## Accounts -/

/-- Whether an address is that of an account of the wallet, but for the case of its letters. -/
def Manages (internal : List InternalAccount) (address : String) : Prop :=
  ∃ account ∈ internal, SameLetters account.address address

/-- What the check of addresses reports about those that it was given. -/
inductive AddressesReport (internal : List InternalAccount) (addresses : List String) :
    Except Error Unit → Prop where
  /-- The wallet manages each address. -/
  | known (managed : ∀ address ∈ addresses, Manages internal address) :
    AddressesReport internal addresses (.ok ())
  /-- The first address that the wallet does not manage is named. -/
  | unknown {before : List String} {address : String}
      (stops : StopsAt (fun _ => Manages internal) addresses before address) :
    AddressesReport internal addresses (.error (.unrecognizedAddress accountsName address))

/-- Some strings are read as themselves. -/
theorem nonEmptyStrings?_ofStrings {items : List String} (nonempty : items ≠ []) :
    nonEmptyStrings? (.ofStrings items) = some items := by
  cases items with
  | nil => exact absurd rfl nonempty
  | cons first others =>
    have each : Json.asString? ∘ Json.string = fun item => pure item := rfl
    change ((first :: others).map Json.string).mapM Json.asString? = _
    rw [List.mapM_map, each, List.mapM_pure, List.map_id']
    rfl

/-- The strings that are read from a value are at least one, and the value is the array of them. -/
theorem nonEmptyStrings?_eq_some_iff {value : Json} {strings : List String} :
    nonEmptyStrings? value = some strings ↔ strings ≠ [] ∧ value = .ofStrings strings := by
  have each : ∀ {items : List Json} {strings : List String},
      items.mapM Json.asString? = some strings → items = strings.map .string := by
    intro items
    induction items with
    | nil =>
      intro strings read
      cases read
      rfl
    | cons item rest ih =>
      intro strings read
      rw [List.mapM_cons] at read
      obtain ⟨text, first, read⟩ := Option.bind_eq_some_iff.1 read
      obtain ⟨texts, others, read⟩ := Option.bind_eq_some_iff.1 read
      cases read
      rw [Json.asString?_eq_some_iff.1 first, ih others, List.map_cons]
  constructor
  · intro read
    unfold nonEmptyStrings? at read
    split at read
    · rename_i item items
      have same := each read
      refine ⟨?_, congrArg Json.array same⟩
      intro empty
      rw [empty] at same
      contradiction
    · contradiction
  · intro ⟨nonempty, same⟩
    rw [same, nonEmptyStrings?_ofStrings nonempty]

/-- An address is passed by exactly if the wallet manages it. -/
theorem any_sameAddress_iff {internal : List InternalAccount} {address : String} :
    (internal.any (sameAddress ·.address address)) = true ↔ Manages internal address := by
  rw [List.any_eq_true, Manages]
  simp only [sameAddress_iff]

/-- What the check of addresses reports is what it returns. -/
theorem AddressesReport.eq {internal : List InternalAccount} {addresses : List String}
    {report : Except Error Unit} (reports : AddressesReport internal addresses report) :
    checkAddresses internal addresses = report := by
  unfold checkAddresses
  cases reports with
  | known managed =>
    have absent : (addresses.find? fun address =>
        !internal.any (sameAddress ·.address address)) = none := by
      refine List.find?_eq_none.2 fun address member => ?_
      rw [any_sameAddress_iff.2 (managed address member)]
      decide
    rw [absent]
  | @unknown before address stops =>
    obtain ⟨⟨after, starts⟩, passed, fails⟩ := stops
    have found : (addresses.find? fun address =>
        !internal.any (sameAddress ·.address address)) = some address := by
      have stranger : internal.any (sameAddress ·.address address) = false :=
        Bool.eq_false_iff.2 (mt any_sameAddress_iff.1 fails)
      refine List.find?_eq_some_iff_append.2 ⟨by rw [stranger]; rfl, before, after, ?_, ?_⟩
      · rw [← starts, List.append_assoc]
        rfl
      · intro earlier member
        rw [any_sameAddress_iff.2 (allPass_const_iff.1 passed earlier member)]
        rfl
    rw [found]

/-- There is something to report about all addresses. -/
theorem exists_addressesReport (internal : List InternalAccount) (addresses : List String) :
    ∃ report, AddressesReport internal addresses report := by
  by_cases managed : ∀ address ∈ addresses, Manages internal address
  · exact ⟨_, .known managed⟩
  · obtain ⟨before, address, stops⟩ := exists_stopsAt (mt allPass_const_iff.1 managed)
    exact ⟨_, .unknown stops⟩

/-- The check of addresses returns just what there is to report. -/
theorem checkAddresses_eq_iff {internal : List InternalAccount} {addresses : List String}
    {report : Except Error Unit} :
    checkAddresses internal addresses = report ↔ AddressesReport internal addresses report := by
  refine ⟨fun same => ?_, AddressesReport.eq⟩
  obtain ⟨found, reports⟩ := exists_addressesReport internal addresses
  rw [← same, reports.eq]
  exact reports

section Asking

variable {m : Type → Type} [Monad m]

/-- Nothing is asked about a value that is no array of strings, or that has none. -/
theorem checkAccounts_misshapen {value : Json} (listAccounts : m (List InternalAccount))
    (shape : ¬ ∃ addresses, addresses ≠ [] ∧ value = .ofStrings addresses) :
    checkAccounts listAccounts value = pure (.error (.invalidAccounts accountsName)) := by
  unfold checkAccounts
  cases read : nonEmptyStrings? value with
  | none => rfl
  | some addresses => exact absurd ⟨addresses, nonEmptyStrings?_eq_some_iff.1 read⟩ shape

/-- The accounts are listed once for an array of strings, which are checked as addresses. -/
theorem checkAccounts_ofStrings {addresses : List String} (listAccounts : m (List InternalAccount))
    (nonempty : addresses ≠ []) :
    checkAccounts listAccounts (.ofStrings addresses) =
      listAccounts >>= fun internal => pure (checkAddresses internal addresses) := by
  rw [checkAccounts, nonEmptyStrings?_ofStrings nonempty]

end Asking

/-! ## Networks -/

/-- The chain id that is looked up for an item of an array. -/
inductive LookedUpAs : Json → String → Prop where
  /-- A string is looked up as it is. -/
  | string (text : String) : LookedUpAs (.string text) text
  /-- Any other item is looked up under its text. -/
  | other {item : Json} (other : ∀ text, item ≠ .string text) : LookedUpAs item item.compact

/-- Whether a chain id has a network client, where others were looked up before. -/
def Found (answer : List String → String → Except String String) (before : List String)
    (chainId : String) : Prop :=
  ∃ client, answer before chainId = .ok client

/-- What the check of networks reports about a value, and which chain ids are looked up for it. -/
inductive NetworksReport (answer : List String → String → Except String String) (value : Json) :
    Except Error Unit × List String → Prop where
  /-- The value is no array, or has no item, and nothing is looked up. -/
  | misshapen (shape : ¬ ∃ items, items ≠ [] ∧ value = .array items) :
    NetworksReport answer value (.error (.invalidChainIds chainsName), [])
  /-- All items are looked up in their order, and each has a network client. -/
  | known {items : List Json} {chainIds : List String} (nonempty : items ≠ [])
      (lists : value = .array items) (texts : List.Forall₂ LookedUpAs items chainIds)
      (found : AllPass (Found answer) chainIds) :
    NetworksReport answer value (.ok (), chainIds)
  /-- The items are looked up in their order as far as the first one without a network client, which
  is named. -/
  | unknown {items : List Json} {chainIds before : List String} {chainId : String}
      (lists : value = .array items) (texts : List.Forall₂ LookedUpAs items chainIds)
      (stops : StopsAt (Found answer) chainIds before chainId) :
    NetworksReport answer value
      (.error (.unrecognizedChainId chainsName chainId), before ++ [chainId])

/-- An item is looked up under one text. -/
theorem lookedUpAs_iff {item : Json} {chainId : String} :
    LookedUpAs item chainId ↔ chainIdOfItem item = chainId := by
  constructor
  · intro looked
    cases looked with
    | string text => rfl
    | other other =>
      unfold chainIdOfItem
      split
      · rename_i text
        exact absurd rfl (other text)
      · rfl
  · intro same
    rw [← same]
    unfold chainIdOfItem
    split
    · rename_i text
      exact .string text
    · rename_i other
      exact .other other

/-- The texts under which items are looked up. -/
theorem forall₂_lookedUpAs_iff {items : List Json} {chainIds : List String} :
    List.Forall₂ LookedUpAs items chainIds ↔ items.map chainIdOfItem = chainIds := by
  have same : LookedUpAs = fun item chainId => chainIdOfItem item = chainId := by
    funext item chainId
    exact propext lookedUpAs_iff
  rw [same, ← List.forall₂_eq_eq_eq, List.forall₂_map_left_iff]

section Remembering

variable {answer : List String → String → Except String String} {chainIds before : List String}
  {chainId : String} {items : List Json} {value : Json}

/-- A chain id is looked up by a wallet that remembers it. -/
theorem lookUpAll_recorded (history : List String) :
    Id.run ((lookUpAll (recorded answer) (chainId :: chainIds)).run history) =
      match answer history chainId with
      | .error _ =>
        (.error (.unrecognizedChainId chainsName chainId), history ++ [chainId])
      | .ok _ => Id.run ((lookUpAll (recorded answer) chainIds).run (history ++ [chainId])) := by
  rw [lookUpAll]
  simp only [recorded, StateT.run_bind, StateT.run_get, StateT.run_set, StateT.run_pure, pure_bind]
  cases answer history chainId with
  | error cause => rfl
  | ok client => rfl

/-- Where all chain ids have a network client, all of them are looked up. -/
theorem lookUpAll_of_found (history : List String)
    (found : AllPass (fun before => Found answer (history ++ before)) chainIds) :
    Id.run ((lookUpAll (recorded answer) chainIds).run history) =
      (.ok (), history ++ chainIds) := by
  induction chainIds generalizing history with
  | nil =>
    rw [List.append_nil]
    rfl
  | cons chainId rest ih =>
    obtain ⟨⟨client, here⟩, later⟩ := allPass_cons_iff.1 found
    rw [List.append_nil] at here
    have behind := ih (history ++ [chainId]) (by simpa using later)
    rw [lookUpAll_recorded, here, behind, List.append_assoc]
    rfl

/-- The look-ups end at the first chain id without a network client, which is named. -/
theorem lookUpAll_of_stopsAt (history : List String)
    (stops : StopsAt (fun before => Found answer (history ++ before)) chainIds before chainId) :
    Id.run ((lookUpAll (recorded answer) chainIds).run history) =
      (.error (.unrecognizedChainId chainsName chainId), history ++ before ++ [chainId]) := by
  obtain ⟨⟨after, rfl⟩, passed, fails⟩ := stops
  induction before generalizing history with
  | nil =>
    rw [List.append_nil] at fails ⊢
    rw [List.nil_append, List.singleton_append, lookUpAll_recorded]
    cases known : answer history chainId with
    | ok client => exact absurd ⟨client, known⟩ fails
    | error cause => rfl
  | cons first others ih =>
    obtain ⟨⟨client, here⟩, later⟩ := allPass_cons_iff.1 passed
    rw [List.append_nil] at here
    have behind := ih (history ++ [first]) (by simpa using later) (by simpa using fails)
    rw [List.cons_append, List.cons_append, lookUpAll_recorded, here, behind]
    simp

/-- The items of an array are looked up under their texts. -/
theorem checkNetworks_array {m : Type → Type} [Monad m]
    (networkClient : String → m (Except String String)) (nonempty : items ≠ [])
    (texts : List.Forall₂ LookedUpAs items chainIds) :
    checkNetworks networkClient (.array items) = lookUpAll networkClient chainIds := by
  cases items with
  | nil => exact absurd rfl nonempty
  | cons item rest =>
    rw [← forall₂_lookedUpAs_iff.1 texts]
    rfl

/-- Nothing is looked up for a value that is no array, or that has no item. -/
theorem checkNetworks_misshapen {m : Type → Type} [Monad m]
    (networkClient : String → m (Except String String))
    (shape : ¬ ∃ items, items ≠ [] ∧ value = .array items) :
    checkNetworks networkClient value = pure (.error (.invalidChainIds chainsName)) := by
  unfold checkNetworks
  split
  · rename_i item items
    exact absurd ⟨item :: items, List.cons_ne_nil _ _, rfl⟩ shape
  · rfl

/-- What the check of networks reports is what it returns, and the chain ids that the report lists
are those that the wallet remembers. -/
theorem NetworksReport.eq {report : Except Error Unit × List String}
    (reports : NetworksReport answer value report) :
    Id.run ((checkNetworks (recorded answer) value).run []) = report := by
  cases reports with
  | misshapen shape =>
    rw [checkNetworks_misshapen _ shape]
    rfl
  | known nonempty lists texts found =>
    rw [lists, checkNetworks_array _ nonempty texts, lookUpAll_of_found [] found, List.nil_append]
  | @unknown items chainIds before chainId lists texts stops =>
    have nonempty : items ≠ [] := by
      intro empty
      rw [empty, List.forall₂_nil_left_iff] at texts
      have shorter := stops.starts.length_le
      rw [texts] at shorter
      simp at shorter
    rw [lists, checkNetworks_array _ nonempty texts, lookUpAll_of_stopsAt [] stops,
      List.nil_append]

/-- There is something to report about every value. -/
theorem exists_networksReport (answer : List String → String → Except String String)
    (value : Json) : ∃ report, NetworksReport answer value report := by
  by_cases shape : ∃ items, items ≠ [] ∧ value = .array items
  · obtain ⟨items, nonempty, lists⟩ := shape
    have texts : List.Forall₂ LookedUpAs items (items.map chainIdOfItem) :=
      forall₂_lookedUpAs_iff.2 rfl
    by_cases found : AllPass (Found answer) (items.map chainIdOfItem)
    · exact ⟨_, .known nonempty lists texts found⟩
    · obtain ⟨before, chainId, stops⟩ := exists_stopsAt found
      exact ⟨_, .unknown lists texts stops⟩
  · exact ⟨_, .misshapen shape⟩

/-- A wallet that remembers gets from the check of networks just what there is to report. -/
theorem checkNetworks_eq_iff {report : Except Error Unit × List String} :
    Id.run ((checkNetworks (recorded answer) value).run []) = report ↔
      NetworksReport answer value report := by
  refine ⟨fun same => ?_, NetworksReport.eq⟩
  obtain ⟨found, reports⟩ := exists_networksReport answer value
  rw [← same, reports.eq]
  exact reports

end Remembering

/-- The two checks of a value report just what there is to report. In whatever monad the wallet
lives, nothing is asked about a value of the wrong shape, and for strings the accounts are listed
once: then each address is that of an account, or the first one that is not is named as it came. The
chain ids are looked up in their order, also where the answers depend on the look-ups before: each
has a network client, or the look-ups end at the first one that has none, and it is named. -/
theorem requests_reported_exactly (value : Json) :
    (∀ {m : Type → Type} [Monad m] (listAccounts : m (List InternalAccount)),
      ((¬ ∃ addresses, addresses ≠ [] ∧ value = .ofStrings addresses) →
        checkAccounts listAccounts value = pure (.error (.invalidAccounts accountsName))) ∧
      ∀ addresses, addresses ≠ [] → value = .ofStrings addresses →
        checkAccounts listAccounts value =
          listAccounts >>= fun internal => pure (checkAddresses internal addresses)) ∧
    (∀ internal addresses report, checkAddresses internal addresses = report ↔
      AddressesReport internal addresses report) ∧
    (∀ {m : Type → Type} [Monad m] (networkClient : String → m (Except String String)),
      (¬ ∃ items, items ≠ [] ∧ value = .array items) →
        checkNetworks networkClient value = pure (.error (.invalidChainIds chainsName))) ∧
    ∀ answer report, Id.run ((checkNetworks (recorded answer) value).run []) = report ↔
      NetworksReport answer value report := by
  refine ⟨fun listAccounts => ⟨checkAccounts_misshapen listAccounts, ?_⟩,
    fun _ _ _ => checkAddresses_eq_iff, fun networkClient => checkNetworks_misshapen networkClient,
    fun _ _ => checkNetworks_eq_iff⟩
  intro addresses nonempty lists
  rw [lists]
  exact checkAccounts_ofStrings listAccounts nonempty

/-- An item that is no string is looked up under its text. The client of the first one is no longer
found when it is looked up again, which ends the look-ups. -/
example :
    let answer := fun before id =>
      if id ∈ before then .error "in use" else .ok (String.append "client of " id)
    Id.run ((checkNetworks (recorded answer) (.array [.null, .string "null", .string "0x1"])).run
      []) = (.error (.unrecognizedChainId chainsName "null"), ["null", "null"]) := rfl

end WalletCore.Permission
