import Mathlib.Data.List.Basic
import WalletCore.Proofs.State.ConversionReports
import WalletCore.Proofs.State.Frame

/-! # Running the migrations again

A state that was migrated and then lost its version is migrated once more. Nothing changes: a marker
that was reset is reset already, a subject that was converted has no former permission any more, and
a subject that could not be converted cannot be converted now, for the same reason. What is reported
was reported before (`rerun_unchanged`).
-/
namespace WalletCore.State

/-- Whether a transformation leaves controllers as they are and reports only what is among some
reports, in this order. -/
structure Settled {ρ : Type} (transform : Controllers → Controllers × List ρ)
    (reached : Controllers) (reports : List ρ) : Prop where
  /-- Nothing changes. -/
  controllers : (transform reached).1 = reached
  /-- What is reported is among the reports. -/
  reports : (transform reached).2.Sublist reports

/-- Where nothing changes, only the reports are to be compared. -/
theorem Settled.of_eq {ρ : Type} {transform : Controllers → Controllers × List ρ}
    {reached : Controllers} {found reports : List ρ}
    (transformed : transform reached = (reached, found)) (among : found.Sublist reports) :
    Settled transform reached reports := by
  refine ⟨?_, ?_⟩
  · rw [transformed]
  · rw [transformed]
    exact among

/-- What is settled with findings is settled with the anomalies that a migration makes of them. -/
theorem Settled.ofFindings {transform : Controllers → Controllers × List Finding}
    {reached : Controllers} {findings : List Finding} (settled : Settled transform reached findings)
    (version : UInt64) (description : String) :
    Settled (Migration.ofFindings version description transform).transform reached
      (findings.map (⟨version, ·⟩)) :=
  ⟨settled.controllers, settled.reports.map _⟩

/-- What is settled for a migration is settled for it where it is applied as far as it lacks. -/
theorem Settled.since {migration : Migration} {version : UInt64} {reached : Controllers}
    {anomalies : List Anomaly}
    (settled : version < migration.version → Settled migration.transform reached anomalies) :
    Settled (migration.since version) reached anomalies := by
  by_cases pending : version < migration.version
  · have applied : migration.since version reached = migration.transform reached := if_pos pending
    obtain ⟨same, among⟩ := settled pending
    rw [← applied] at same among
    exact ⟨same, among⟩
  · exact .of_eq (if_neg pending) (List.nil_sublist _)

namespace MarkerReset

/-- What is found depends on the controller of the preferences only. -/
theorem findings_congr {controllers others : Controllers}
    (same : others.get? controllerName = controllers.get? controllerName) :
    (transform others).2 = (transform controllers).2 := by
  unfold transform
  rw [same]
  split
  · rfl
  · split <;> rfl
  · rfl

/-- Controllers in which the one of the preferences is as after a reset are settled. -/
theorem settled {controllers others : Controllers}
    (same : others.get? controllerName = (transform controllers).1.get? controllerName) :
    Settled transform others (transform controllers).2 := by
  rcases transform_cases controllers with
    ⟨absent, result⟩ | ⟨⟨value, held, unreadable⟩, finding, result⟩ |
    ⟨controller, preferences, held, nested, result⟩
  · rw [result] at same ⊢
    refine .of_eq ?_ (.refl _)
    simp only [transform, same, absent]
  · have found := findings_congr (same.trans (by rw [result]))
    rw [result] at same
    obtain ⟨other, transformed⟩ := transform_of_malformed ⟨value, same.trans held, unreadable⟩
    rw [transformed] at found
    exact .of_eq transformed (found ▸ .refl _)
  · rw [result] at same ⊢
    rw [Members.get?_put, if_pos rfl, unmarked] at same
    let marked := Entries.put markerName (.bool false) preferences
    have unset : Entries.put markerName (.bool false) marked = marked :=
      Entries.put_of_lookup ((Entries.lookup_put ..).trans (if_pos rfl))
    have inside : (Entries.put partName (.object marked) controller).lookup partName =
        some (.object marked) := (Entries.lookup_put ..).trans (if_pos rfl)
    refine .of_eq ?_ (.refl _)
    simp only [transform, same, resetIn, inside, unset, Entries.put_of_lookup inside,
      Members.put_of_get? same, marked]

end MarkerReset

namespace GrantConversion

open Permission (accountsName)

/-- In a subject that was converted there is nothing to convert. -/
theorem convertSubject_of_converted {selected origin : String} {subject after : Json}
    (wellFormed : subject.WellFormed)
    (succeeded : convertSubject selected origin subject = .ok (some after)) :
    convertSubject selected origin after = .ok none := by
  cases convertSubject_spec wellFormed succeeded with
  | permissions found stored others reads grows writes =>
    simp only [convertSubject, stored, convertPermissions, writes.noAccounts]
    rfl

/-- A subject after the migration stays as it is, and what is reported about it was reported
before. -/
theorem migratedSubject_migrated {selected origin : String} {subject : Json}
    (wellFormed : subject.WellFormed) :
    migratedSubject selected origin (migratedSubject selected origin subject) =
        migratedSubject selected origin subject ∧
      subjectFinding? selected origin (migratedSubject selected origin subject) =
        subjectFinding? selected origin subject := by
  cases outcome : convertSubject selected origin subject with
  | error finding =>
    have kept : migratedSubject selected origin subject = subject := by
      rw [migratedSubject, outcome]
    rw [kept]
    exact ⟨kept, rfl⟩
  | ok result =>
    cases result with
    | none =>
      have kept : migratedSubject selected origin subject = subject := by
        rw [migratedSubject, outcome]
      rw [kept]
      exact ⟨kept, rfl⟩
    | some after =>
      have converted : migratedSubject selected origin subject = after := by
        rw [migratedSubject, outcome]
      have again := convertSubject_of_converted wellFormed outcome
      rw [converted, migratedSubject, subjectFinding?, subjectFinding?, again, outcome]
      exact ⟨rfl, rfl⟩

/-- The selected chain does not depend on the permissions. -/
theorem selectedChain_put (controllers : Controllers) (value : Json) :
    selectedChain (controllers.put permissionController value) = selectedChain controllers := by
  have apart : networkController ≠ permissionController := by decide
  unfold selectedChain
  rw [Members.get?_put, if_neg apart]

/-- Subjects after the migration stay as they are, with the same reports. -/
theorem subjects_migrated (selected : String) {subjects : List (String × Json)}
    (wellFormed : ∀ entry ∈ subjects, entry.2.WellFormed) :
    let migrated := subjects.map fun entry => (entry.1, migratedSubject selected entry.1 entry.2)
    (migrated.map fun entry => (entry.1, migratedSubject selected entry.1 entry.2)) = migrated ∧
      (migrated.filterMap fun entry => subjectFinding? selected entry.1 entry.2) =
        subjects.filterMap fun entry => subjectFinding? selected entry.1 entry.2 := by
  intro migrated
  constructor
  · rw [List.map_map]
    refine List.map_congr_left fun entry member => ?_
    exact congrArg (entry.1, ·) (migratedSubject_migrated (wellFormed entry member)).1
  · rw [List.filterMap_map]
    refine List.filterMap_congr fun entry member => ?_
    exact (migratedSubject_migrated (wellFormed entry member)).2

/-- Controllers after the migration are settled. -/
theorem settled {controllers : Controllers}
    (wellFormed : ∀ value, controllers.get? permissionController = some value →
      value.WellFormed) :
    Settled transform (transform controllers).1 (transform controllers).2 := by
  rcases transform_cases controllers with
    same | ⟨controller, subjects, selected, held, nested, reached, result⟩
  · rw [same]
    exact .of_eq (Prod.ext same rfl) (.refl _)
  · have sound : ∀ entry ∈ subjects, entry.2.WellFormed := by
      cases (wellFormed _ held).lookup nested with
      | object distinct inner => exact inner
    obtain ⟨again, reports⟩ := subjects_migrated selected sound
    let migrated := subjects.map fun entry => (entry.1, migratedSubject selected entry.1 entry.2)
    let converted := convertIn selected controller subjects
    have heldNow : (controllers.put permissionController (.object converted)).get?
        permissionController = some (.object converted) :=
      (Members.get?_put ..).trans (if_pos rfl)
    have nestedNow : converted.lookup "subjects" = some (.object migrated) :=
      (Entries.lookup_put ..).trans (if_pos rfl)
    have convertedNow : convertIn selected converted migrated = converted := by
      unfold convertIn
      rw [again]
      exact Entries.put_of_lookup nestedNow
    have selects : Selects (controllers.put permissionController (.object converted)) selected := by
      rw [← selectedChain_eq_ok_iff, selectedChain_put]
      exact reached
    rw [result]
    by_cases affected : ∃ entry ∈ migrated, hasAccounts entry.2 = true
    · obtain ⟨entry, member, has⟩ := affected
      have transformed := transform_of_selects heldNow nestedNow member has selects
      rw [convertedNow, Members.put_of_get? heldNow, reports] at transformed
      exact .of_eq transformed (.refl _)
    · have idle : Idle (controllers.put permissionController (.object converted)) :=
        .without heldNow nestedNow fun entry member =>
          Bool.eq_false_iff.2 fun has => affected ⟨entry, member, has⟩
      exact .of_eq (transform_of_idle idle) (List.nil_sublist _)

end GrantConversion

/-- What a run made of the controllers is settled for both migrations, as far as they are
pending. -/
theorem settled_since (version : UInt64) {controllers : Controllers}
    (sound : ∀ value, controllers.get? GrantConversion.permissionController = some value →
      value.WellFormed) :
    let reset := MarkerReset.migration.since version controllers
    let converted := GrantConversion.migration.since version reset.1
    Settled (MarkerReset.migration.since version) converted.1 reset.2 ∧
      Settled (GrantConversion.migration.since version) converted.1 converted.2 := by
  intro reset converted
  have apart : MarkerReset.controllerName ≠ GrantConversion.permissionController := by decide
  constructor
  · refine .since fun pending => ?_
    have applied : reset = MarkerReset.migration.transform controllers := if_pos pending
    -- The second migration left the controller of the preferences as the first one made it.
    have same : converted.1.get? MarkerReset.controllerName =
        reset.1.get? MarkerReset.controllerName :=
      (GrantConversion.onlyController_since version reset.1).others _ apart
    rw [applied] at same ⊢
    exact (MarkerReset.settled same).ofFindings _ _
  · refine .since fun pending => ?_
    have applied : converted = GrantConversion.migration.transform reset.1 := if_pos pending
    rw [applied]
    refine (GrantConversion.settled fun value found => sound value ?_).ofFindings _ _
    rw [← (MarkerReset.onlyController_since version controllers).others _ apart.symm]
    exact found

/-- A second run from the same version changes nothing, and reports only what the first one did. -/
theorem rerun_builtin {state : Versioned}
    (sound : ∀ value, state.controllers.get? GrantConversion.permissionController = some value →
      value.WellFormed) :
    (builtinMigrator.run ⟨state.version, (builtinMigrator.run state).1.controllers⟩).1.controllers =
        (builtinMigrator.run state).1.controllers ∧
      (builtinMigrator.run ⟨state.version, (builtinMigrator.run state).1.controllers⟩).2.Sublist
        (builtinMigrator.run state).2 := by
  obtain ⟨resetAgain, convertedAgain⟩ := settled_since state.version sound
  obtain ⟨firstData, firstAnomalies⟩ := run_builtin state
  obtain ⟨secondData, secondAnomalies⟩ :=
    run_builtin ⟨state.version, (builtinMigrator.run state).1.controllers⟩
  simp only [firstData, resetAgain.controllers, convertedAgain.controllers]
    at secondData secondAnomalies
  rw [firstData]
  constructor
  · exact secondData
  · rw [secondAnomalies, firstAnomalies]
    exact resetAgain.reports.append convertedAgain.reports

/-- Running the migrations again on a state that was migrated, from the version that it had before,
changes nothing, and reports only what was reported before, in the same order. The same holds for
each migration alone. -/
theorem rerun_unchanged (state : Versioned) (wellFormed : state.controllers.WellFormed) :
    (let first := builtinMigrator.run state
      let second := builtinMigrator.run ⟨state.version, first.1.controllers⟩
      second.1.controllers = first.1.controllers ∧ second.2.Sublist first.2) ∧
    ∀ migration ∈ builtinMigrations,
      let first := migration.migrate state
      let second := migration.migrate ⟨state.version, first.1.controllers⟩
      second.1.controllers = first.1.controllers ∧ second.2.Sublist first.2 := by
  have sound : ∀ value, state.controllers.get? GrantConversion.permissionController = some value →
      value.WellFormed := fun value found => wellFormed _ (Entries.mem_of_lookup found)
  refine ⟨rerun_builtin sound, fun migration member => ?_⟩
  have settled : Settled migration.transform (migration.transform state.controllers).1
      (migration.transform state.controllers).2 := by
    simp only [builtinMigrations, List.mem_cons, List.not_mem_nil, or_false] at member
    rcases member with rfl | rfl
    · exact (MarkerReset.settled rfl).ofFindings _ _
    · exact (GrantConversion.settled sound).ofFindings _ _
  exact ⟨settled.controllers, settled.reports⟩

/-- Of two subjects one is converted and the other one is reported; a second run from the same
version leaves both as they are. -/
theorem rerun_unchanged_beside_converted :
    let broken := Json.object [("permissions", .object [(Permission.accountsName, .null)])]
    let caveat := Json.object [("type", .string Permission.accountsCaveat),
      ("value", .array [.string "0xaa"])]
    let sound := Json.object [("permissions", .object [(Permission.accountsName,
      .object [("caveats", .array [caveat])])])]
    let network := Json.object [("rpcEndpoints", .array [.object
      [("networkClientId", .string "mainnet")]])]
    let state : Versioned := ⟨134, Members.ofList [
      (GrantConversion.permissionController, .object [("subjects",
        .object [("https://broken.example", broken), ("https://dapp.example", sound)])]),
      (GrantConversion.networkController, .object [("selectedNetworkClientId", .string "mainnet"),
        ("networkConfigurationsByChainId", .object [("0x1", network)])])]⟩
    let first := builtinMigrator.run state
    let second := builtinMigrator.run ⟨134, first.1.controllers⟩
    first.1.controllers ≠ state.controllers ∧
      first.2 = [⟨147, .invalidPart "eth_accounts caveat" "https://broken.example"⟩] ∧
      second.1.controllers = first.1.controllers ∧ second.2.Sublist first.2 := by
  intro broken caveat sound network state first second
  have wellFormed : state.controllers.WellFormed := by
    have brokenFormed : broken.WellFormed :=
      .object (by decide) (List.forall_mem_singleton.2 (.object (by decide)
        (List.forall_mem_singleton.2 .null)))
    have caveatFormed : caveat.WellFormed :=
      .object (by decide) (List.forall_mem_cons.2 ⟨.string _, List.forall_mem_singleton.2
        (.array (List.forall_mem_singleton.2 (.string _)))⟩)
    have soundFormed : sound.WellFormed :=
      .object (by decide) (List.forall_mem_singleton.2 (.object (by decide)
        (List.forall_mem_singleton.2 (.object (by decide)
          (List.forall_mem_singleton.2 (.array (List.forall_mem_singleton.2 caveatFormed)))))))
    have networkFormed : network.WellFormed :=
      .object (by decide) (List.forall_mem_singleton.2 (.array (List.forall_mem_singleton.2
        (.object (by decide) (List.forall_mem_singleton.2 (.string _))))))
    refine List.forall_mem_cons.2 ⟨.object (by decide) (List.forall_mem_singleton.2
      (.object (by decide) (List.forall_mem_cons.2
        ⟨brokenFormed, List.forall_mem_singleton.2 soundFormed⟩))), ?_⟩
    exact List.forall_mem_singleton.2 (.object (by decide) (List.forall_mem_cons.2
      ⟨.string _, List.forall_mem_singleton.2 (.object (by decide)
        (List.forall_mem_singleton.2 networkFormed))⟩))
  obtain ⟨⟨same, among⟩, -⟩ := rerun_unchanged state wellFormed
  exact ⟨by decide +kernel, by decide +kernel, same, among⟩

end WalletCore.State
