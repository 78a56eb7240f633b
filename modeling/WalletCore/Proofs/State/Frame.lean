import WalletCore.Proofs.State.GrantConversion
import WalletCore.State.Builtin

/-! # What the migrations leave alone

Each migration changes one controller, in one place of it. The reset of the marker changes a single
preference, and the conversion changes at most three permissions of each subject. Everything else
keeps its value, and what is listed in order keeps its order, except for the permissions of a
converted subject, which may move but are neither lost nor doubled (`changes_confined`).
-/
namespace WalletCore

namespace Json

/-- Two values that differ at most in one member of an object, and in it at most by a change of some
kind. -/
inductive OnlyMember (name : String) (change : Json → Json → Prop) : Json → Json → Prop where
  /-- They are the same. -/
  | same (value : Json) : OnlyMember name change value value
  /-- The member differs; the others have the same values and stand in the same order. -/
  | member {before after : List (String × Json)} {former later : Json}
      (found : before.lookup name = some former) (stored : after.lookup name = some later)
      (changed : change former later)
      (names : Entries.names after = Entries.names before)
      (others : ∀ other, other ≠ name → after.lookup other = before.lookup other) :
    OnlyMember name change (.object before) (.object after)

/-- Two objects with the same names in the same order, the values of which differ at most by changes
of some kind. -/
inductive EachMember (change : Json → Json → Prop) : Json → Json → Prop where
  /-- The values of each name differ at most by such a change. -/
  | members {before after : List (String × Json)}
      (names : Entries.names after = Entries.names before)
      (changed : ∀ name, Option.Rel change (before.lookup name) (after.lookup name)) :
    EachMember change (.object before) (.object after)

/-- Storing the changed value of a member changes only this member. -/
theorem OnlyMember.put {name : String} {change : Json → Json → Prop}
    {members : List (String × Json)} {former later : Json}
    (found : members.lookup name = some former) (changed : change former later) :
    OnlyMember name change (.object members) (.object (Entries.put name later members)) := by
  refine .member found ?_ changed ?_ ?_
  · rw [Entries.lookup_put, if_pos rfl]
  · rw [Entries.names_put, if_pos (Entries.mem_names_of_lookup found)]
  · intro other different
    rw [Entries.lookup_put, if_neg different]

/-- Changing the values of an object one by one changes them only. -/
theorem EachMember.map {change : Json → Json → Prop} {members : List (String × Json)}
    {f : String → Json → Json} (changed : ∀ name value, change value (f name value)) :
    EachMember change (.object members)
      (.object (members.map fun entry => (entry.1, f entry.1 entry.2))) := by
  refine .members (Entries.names_map f members) fun name => ?_
  rw [Entries.lookup_map]
  cases members.lookup name with
  | none => exact .none
  | some value => exact .some (changed name value)

end Json

namespace State

/-- Controllers that differ at most in one of them, and in it at most by a change of some kind. -/
structure OnlyController (name : String) (change : Json → Json → Prop)
    (before after : Controllers) : Prop where
  /-- The names stand in the same order. -/
  names : after.names = before.names
  /-- The others have the same states. -/
  others : ∀ other, other ≠ name → after.get? other = before.get? other
  /-- The one differs at most by such a change. -/
  changed : Option.Rel change (before.get? name) (after.get? name)

namespace OnlyController

variable {name : String} {change : Json → Json → Prop} {controllers : Controllers}

/-- Where nothing differs. -/
theorem refl (kept : ∀ value, change value value) :
    OnlyController name change controllers controllers := by
  refine ⟨rfl, fun _ _ => rfl, ?_⟩
  cases controllers.get? name with
  | none => exact .none
  | some value => exact .some (kept value)

/-- Storing the changed state of a controller changes only this controller. -/
theorem put {former later : Json} (found : controllers.get? name = some former)
    (changed : change former later) :
    OnlyController name change controllers (controllers.put name later) := by
  refine ⟨Members.names_put later found, fun other different => ?_, ?_⟩
  · rw [Members.get?_put, if_neg different]
  · rw [found, Members.get?_put, if_pos rfl]
    exact .some changed

end OnlyController

namespace MarkerReset

/-- Two lists of preferences that differ at most in the marker, which is not set in the second
one. -/
inductive Reset : Json → Json → Prop where
  /-- The others have the same values and stand in the same order. -/
  | preferences {before after : List (String × Json)}
      (marker : after.lookup markerName = some (.bool false))
      (names : Entries.names after = Entries.names before ∨
        (markerName ∉ Entries.names before ∧
          Entries.names after = Entries.names before ++ [markerName]))
      (others : ∀ name, name ≠ markerName → after.lookup name = before.lookup name) :
    Reset (.object before) (.object after)

/-- Whether there is a controller of the preferences, but no object with the preferences in it. -/
def Malformed (controllers : Controllers) : Prop :=
  ∃ controller, controllers.get? controllerName = some controller ∧
    ∀ preferences, controller.get? partName ≠ some (.object preferences)

/-- The preferences with the marker reset. -/
def unmarked (preferences : List (String × Json)) : Json :=
  .object (Entries.put markerName (.bool false) preferences)

/-- The marker is reset by storing it. -/
theorem reset_unmarked (preferences : List (String × Json)) :
    Reset (.object preferences) (unmarked preferences) := by
  refine .preferences ?_ ?_ ?_
  · rw [Entries.lookup_put, if_pos rfl]
  · rw [Entries.names_put]
    split
    · exact .inl rfl
    · rename_i fresh
      exact .inr ⟨fresh, rfl⟩
  · intro name different
    rw [Entries.lookup_put, if_neg different]

/-- What the migration does: nothing without a controller, one finding if this is malformed, and
otherwise the marker is reset. -/
theorem transform_cases (controllers : Controllers) :
    (controllers.get? controllerName = none ∧ transform controllers = (controllers, [])) ∨
      (Malformed controllers ∧ ∃ finding, transform controllers = (controllers, [finding])) ∨
      ∃ controller preferences, controllers.get? controllerName = some (.object controller) ∧
        controller.lookup partName = some (.object preferences) ∧
        transform controllers = (controllers.put controllerName
          (.object (Entries.put partName (unmarked preferences) controller)), []) := by
  cases held : controllers.get? controllerName with
  | none => exact .inl ⟨rfl, by simp only [transform, held]⟩
  | some value =>
    by_cases found : ∃ preferences, value.get? partName = some (.object preferences)
    · obtain ⟨preferences, inside⟩ := found
      obtain ⟨controller, rfl, nested⟩ := Json.get?_eq_some_iff.1 inside
      refine .inr (.inr ⟨controller, preferences, rfl, nested, ?_⟩)
      simp only [transform, held, resetIn, nested, unmarked]
    · have malformed : Malformed controllers :=
        ⟨value, held, fun preferences inside => found ⟨preferences, inside⟩⟩
      refine .inr (.inl ⟨malformed, ?_⟩)
      unfold transform
      rw [held]
      split
      · contradiction
      · rename_i controller same
        cases same
        cases outcome : resetIn controller with
        | error finding => exact ⟨finding, rfl⟩
        | ok changed =>
          unfold resetIn at outcome
          split at outcome
          · rename_i preferences nested
            exact absurd ⟨preferences, nested⟩ found
          · contradiction
      · exact ⟨_, rfl⟩

/-- The migration changes nothing but the marker. -/
theorem onlyController (controllers : Controllers) :
    OnlyController controllerName (Json.OnlyMember partName Reset) controllers
      (transform controllers).1 := by
  rcases transform_cases controllers with
    ⟨-, result⟩ | ⟨-, finding, result⟩ | ⟨controller, preferences, held, nested, result⟩
  · rw [result]
    exact .refl .same
  · rw [result]
    exact .refl .same
  · rw [result]
    exact .put held (.put nested (reset_unmarked preferences))

/-- Where the controller is malformed there is one finding, and nothing else happens. -/
theorem transform_of_malformed {controllers : Controllers} (malformed : Malformed controllers) :
    ∃ finding, transform controllers = (controllers, [finding]) := by
  obtain ⟨value, stored, unreadable⟩ := malformed
  rcases transform_cases controllers with
    ⟨absent, -⟩ | ⟨-, result⟩ | ⟨controller, preferences, held, nested, -⟩
  · rw [absent] at stored
    contradiction
  · exact result
  · cases held.symm.trans stored
    exact absurd nested (unreadable preferences)

/-- There is no other finding. -/
theorem findings_of_not_malformed {controllers : Controllers}
    (sound : ¬ Malformed controllers) : (transform controllers).2 = [] := by
  rcases transform_cases controllers with
    ⟨-, result⟩ | ⟨malformed, -⟩ | ⟨controller, preferences, -, -, result⟩
  · exact congrArg Prod.snd result
  · exact absurd malformed sound
  · exact congrArg Prod.snd result

/-- The marker is not set after the migration where there are preferences. -/
theorem marker_transform {controllers : Controllers} {value : Json}
    {preferences : List (String × Json)} (stored : controllers.get? controllerName = some value)
    (found : value.get? partName = some (.object preferences)) :
    ∃ controller changed, (transform controllers).1.get? controllerName = some controller ∧
      controller.get? partName = some changed ∧
      changed.get? markerName = some (.bool false) := by
  rcases transform_cases controllers with
    ⟨absent, -⟩ | ⟨⟨other, held, unreadable⟩, -⟩ | ⟨controller, preferences, held, nested, result⟩
  · rw [absent] at stored
    contradiction
  · cases held.symm.trans stored
    exact absurd found (unreadable preferences)
  · rw [result]
    refine ⟨.object (Entries.put partName (unmarked preferences) controller),
      unmarked preferences, ?_, ?_, ?_⟩
    · exact (Members.get?_put ..).trans (if_pos rfl)
    · exact (Entries.lookup_put ..).trans (if_pos rfl)
    · exact (Entries.lookup_put ..).trans (if_pos rfl)

end MarkerReset

namespace GrantConversion

open Permission (accountsName chainsName authorizationName)

/-- Whether a permission has nothing to do with the conversion. -/
def isOther (name : String) : Bool :=
  name ∉ [accountsName, chainsName, authorizationName]

/-- Two lists of permissions that differ at most in the former permissions and the one that carries
an authorization. -/
inductive Rewritten : Json → Json → Prop where
  /-- The other permissions, with their values, may have moved; none is lost or doubled. Where no
  permission stood twice none does, and the others are found as before. -/
  | permissions {before after : List (String × Json)}
      (others : (after.filter fun entry => isOther entry.1).Perm
        (before.filter fun entry => isOther entry.1))
      (distinct : (Entries.names before).Nodup → (Entries.names after).Nodup)
      (found : (Entries.names before).Nodup → ∀ name, isOther name = true →
        after.lookup name = before.lookup name) :
    Rewritten (.object before) (.object after)

/-- A conversion rewrites the permissions. -/
theorem Rewritten.of_convertPermissions {selected origin : String}
    {permissions converted : List (String × Json)}
    (succeeded : convertPermissions selected origin permissions = .ok (some converted)) :
    Rewritten (.object permissions) (.object converted) := by
  obtain ⟨former, addresses, chains, present, value, -, -, rfl⟩ :=
    convertPermissions_eq_ok succeeded
  refine .permissions ?_ ?_ ?_
  · rw [Entries.filter_put _ (by decide)]
    have chainsApart : isOther chainsName = false := by decide
    have accountsApart : isOther accountsName = false := by decide
    exact (Entries.filter_swapRemove_perm chainsApart _).trans
      (Entries.filter_swapRemove_perm accountsApart permissions)
  · exact fun distinct => (writes_newPermission origin former value distinct).distinct
  · intro distinct name other
    have writes := writes_newPermission origin former value distinct
    simp only [isOther, List.mem_cons, List.not_mem_nil, or_false, not_or, decide_eq_true_eq]
      at other
    exact writes.others name other.1 other.2.1 other.2.2

/-- A subject differs at most in these permissions. -/
theorem onlyMember_migratedSubject (selected origin : String) (subject : Json) :
    Json.OnlyMember "permissions" Rewritten subject (migratedSubject selected origin subject) := by
  unfold migratedSubject
  cases outcome : convertSubject selected origin subject with
  | error finding => exact .same subject
  | ok result =>
    obtain ⟨members, permissions, converted, rfl, found, inner, rfl⟩ :=
      convertSubject_eq_ok outcome
    cases converted with
    | none => exact .same _
    | some granted => exact .put found (.of_convertPermissions inner)

/-- What the migration does: it leaves everything as it is, or it converts the subjects one by
one. -/
theorem transform_cases (controllers : Controllers) :
    (transform controllers).1 = controllers ∨
      ∃ controller subjects selected,
        controllers.get? permissionController = some (.object controller) ∧
        controller.lookup "subjects" = some (.object subjects) ∧
        selectedChain controllers = .ok selected ∧
        transform controllers =
          (controllers.put permissionController (.object (convertIn selected controller subjects)),
            subjects.filterMap fun entry => subjectFinding? selected entry.1 entry.2) := by
  unfold transform
  cases held : controllers.get? permissionController with
  | none => exact .inl rfl
  | some value =>
    cases value with
    | null | bool | number | string | array => exact .inl rfl
    | object controller =>
      simp only
      cases read : objectMember permissionController "subjects" controller with
      | error finding => exact .inl rfl
      | ok subjects =>
        simp only
        split
        · cases reached : selectedChain controllers with
          | error finding => exact .inl rfl
          | ok selected =>
            refine .inr ⟨controller, subjects, selected, rfl, ?_, rfl, rfl⟩
            exact objectMember_eq_ok_iff.1 read
        · exact .inl rfl

/-- The migration changes nothing but the permissions of subjects. -/
theorem onlyController (controllers : Controllers) :
    OnlyController permissionController
      (Json.OnlyMember "subjects" (Json.EachMember (Json.OnlyMember "permissions" Rewritten)))
      controllers (transform controllers).1 := by
  rcases transform_cases controllers with
    same | ⟨controller, subjects, selected, held, nested, -, result⟩
  · rw [same]
    exact .refl .same
  · rw [result]
    exact .put held (.put nested (.map (onlyMember_migratedSubject selected)))

end GrantConversion

/-! ## Runs of the migrator -/

/-- What a migration does to a state of some version: nothing if the state has it already. -/
def Migration.since (migration : Migration) (version : UInt64) (controllers : Controllers) :
    Reported Controllers :=
  if version < migration.version then migration.transform controllers else (controllers, [])

/-- What a migration changes is all that it changes where it is applied as far as it lacks. -/
theorem OnlyController.since {migration : Migration} {name : String}
    {change : Json → Json → Prop} {controllers : Controllers} (version : UInt64)
    (kept : ∀ value, change value value)
    (only : OnlyController name change controllers (migration.transform controllers).1) :
    OnlyController name change controllers (migration.since version controllers).1 := by
  unfold Migration.since
  split
  · exact only
  · exact .refl kept

/-- The reset changes nothing but the marker, whether it is pending or not. -/
theorem MarkerReset.onlyController_since (version : UInt64) (controllers : Controllers) :
    OnlyController controllerName (Json.OnlyMember partName Reset) controllers
      (migration.since version controllers).1 :=
  .since version .same (onlyController controllers)

/-- The conversion changes nothing but the permissions of subjects, whether it is pending or
not. -/
theorem GrantConversion.onlyController_since (version : UInt64) (controllers : Controllers) :
    OnlyController permissionController
      (Json.OnlyMember "subjects" (Json.EachMember (Json.OnlyMember "permissions" Rewritten)))
      controllers (migration.since version controllers).1 :=
  .since version .same (onlyController controllers)

/-- A run resets the marker and then converts the permissions, as far as the state lacks it. -/
theorem run_builtin (state : Versioned) :
    let reset := MarkerReset.migration.since state.version state.controllers
    let converted := GrantConversion.migration.since state.version reset.1
    (builtinMigrator.run state).1.controllers = converted.1 ∧
      (builtinMigrator.run state).2 = reset.2 ++ converted.2 := by
  intro reset converted
  have pending : builtinMigrator.pending state.version =
      (if state.version < 135 then [MarkerReset.migration] else []) ++
        if state.version < 147 then [GrantConversion.migration] else [] := by
    change List.filter _ [MarkerReset.migration, GrantConversion.migration] = _
    by_cases first : state.version < 135 <;> by_cases second : state.version < 147 <;>
      simp [MarkerReset.migration, GrantConversion.migration, first, second]
  unfold Migrator.run Migrator.applyAll
  rw [pending]
  simp only [converted, reset, Migration.since, MarkerReset.migration, GrantConversion.migration]
  by_cases first : state.version < 135
  · have second : state.version < 147 := UInt64.lt_trans first (by decide)
    simp [first, second, Migration.migrate]
  · by_cases second : state.version < 147
    · simp [first, second, Migration.migrate]
    · simp [first, second]

/-- States that differ only in the marker and in the permissions that are converted. -/
structure Confined (before after : Controllers) : Prop where
  /-- The controllers are the same, in the same order. -/
  names : after.names = before.names
  /-- All other controllers have the same states. -/
  others : ∀ name, name ≠ MarkerReset.controllerName →
    name ≠ GrantConversion.permissionController → after.get? name = before.get? name
  /-- Only the marker among the preferences differs. -/
  preferences :
    Option.Rel (Json.OnlyMember MarkerReset.partName MarkerReset.Reset)
      (before.get? MarkerReset.controllerName) (after.get? MarkerReset.controllerName)
  /-- Only the former permissions and the one that carries an authorization differ, in the subjects,
  which stand in the same order. -/
  permissions :
    Option.Rel
      (Json.OnlyMember "subjects"
        (Json.EachMember (Json.OnlyMember "permissions" GrantConversion.Rewritten)))
      (before.get? GrantConversion.permissionController)
      (after.get? GrantConversion.permissionController)

/-- A change of the one controller and then of the other one. -/
theorem Confined.of_onlyController {before between after : Controllers}
    (reset : OnlyController MarkerReset.controllerName
      (Json.OnlyMember MarkerReset.partName MarkerReset.Reset) before between)
    (converted : OnlyController GrantConversion.permissionController
      (Json.OnlyMember "subjects"
        (Json.EachMember (Json.OnlyMember "permissions" GrantConversion.Rewritten)))
      between after) :
    Confined before after := by
  have apart : MarkerReset.controllerName ≠ GrantConversion.permissionController := by decide
  refine ⟨converted.names.trans reset.names, fun name notFirst notSecond => ?_, ?_, ?_⟩
  · rw [converted.others name notSecond, reset.others name notFirst]
  · rw [converted.others _ apart]
    exact reset.changed
  · rw [← reset.others _ apart.symm]
    exact converted.changed

/-- A migration that reports findings reports them for its own version. -/
theorem Migration.version_of_since {version reached : UInt64} {description : String}
    {transform : Controllers → Controllers × List Finding} {controllers : Controllers}
    {anomaly : Anomaly}
    (reported : anomaly ∈ ((ofFindings version description transform).since reached
      controllers).2) : anomaly.version = version := by
  unfold since at reported
  split at reported
  · obtain ⟨finding, -, rfl⟩ := List.mem_map.1 reported
    rfl
  · exact absurd reported List.not_mem_nil

/-- The anomalies of the first migration among those of a run. -/
theorem anomalies_reset (state : Versioned) :
    (builtinMigrator.run state).2.filter (·.version = 135) =
      (MarkerReset.migration.since state.version state.controllers).2 := by
  rw [(run_builtin state).2, List.filter_append, List.filter_eq_self.2, List.filter_eq_nil_iff.2,
    List.append_nil]
  · intro anomaly reported
    rw [Migration.version_of_since reported]
    decide
  · intro anomaly reported
    exact decide_eq_true (Migration.version_of_since reported)

/-- The migrations change nothing but the marker and the permissions that are converted. Where the
first one is pending, the marker of preferences that are an object is not set afterwards, and there
is one anomaly exactly if there is a controller of the preferences without an object of
preferences. -/
theorem changes_confined (state : Versioned) :
    let after := builtinMigrator.run state
    Confined state.controllers after.1.controllers ∧
      (state.version < 135 → ∀ value preferences,
        state.controllers.get? MarkerReset.controllerName = some value →
        value.get? MarkerReset.partName = some (.object preferences) →
        ∃ controller changed,
          after.1.controllers.get? MarkerReset.controllerName = some controller ∧
          controller.get? MarkerReset.partName = some changed ∧
          changed.get? MarkerReset.markerName = some (.bool false)) ∧
      (state.version < 135 → MarkerReset.Malformed state.controllers →
        ∃ finding, after.2.filter (·.version = 135) = [⟨135, finding⟩]) ∧
      (state.version < 135 → ¬ MarkerReset.Malformed state.controllers →
        after.2.filter (·.version = 135) = []) := by
  intro after
  have apart : MarkerReset.controllerName ≠ GrantConversion.permissionController := by decide
  have reset := MarkerReset.onlyController_since state.version state.controllers
  have converted := GrantConversion.onlyController_since state.version
    (MarkerReset.migration.since state.version state.controllers).1
  have result := (run_builtin state).1
  have pending : state.version < 135 →
      MarkerReset.migration.since state.version state.controllers =
        MarkerReset.migration.transform state.controllers := fun lacks => if_pos lacks
  refine ⟨?_, fun lacks value preferences stored found => ?_, fun lacks malformed => ?_,
    fun lacks sound => ?_⟩
  · rw [result]
    exact .of_onlyController reset converted
  · rw [result, converted.others _ apart, pending lacks]
    exact MarkerReset.marker_transform stored found
  · obtain ⟨finding, transformed⟩ := MarkerReset.transform_of_malformed malformed
    refine ⟨finding, ?_⟩
    rw [anomalies_reset, pending lacks, MarkerReset.migration, Migration.transform_ofFindings,
      transformed, List.map_singleton]
  · rw [anomalies_reset, pending lacks, MarkerReset.migration, Migration.transform_ofFindings,
      MarkerReset.findings_of_not_malformed sound, List.map_nil]

/-- The marker of a state that lacks both migrations is reset, and the anomaly of a malformed
controller of the permissions is not one of the first migration. -/
theorem changes_confined_on_marked :
    let preferences := Json.object [("smartTransactionsOptInStatus", .bool true),
      (MarkerReset.markerName, .bool true)]
    let state : Versioned := ⟨134, Members.ofList [
      (MarkerReset.controllerName, .object [(MarkerReset.partName, preferences)]),
      (GrantConversion.permissionController, .null), ("KeyringController", .bool true)]⟩
    let after := builtinMigrator.run state
    Confined state.controllers after.1.controllers ∧
      (∃ controller changed,
        after.1.controllers.get? MarkerReset.controllerName = some controller ∧
        controller.get? MarkerReset.partName = some changed ∧
        changed.get? MarkerReset.markerName = some (.bool false)) ∧
      after.2.filter (·.version = 135) = [] ∧ after.2.length = 1 := by
  intro preferences state after
  obtain ⟨confined, marker, -, quiet⟩ := changes_confined state
  have lacks : state.version < 135 := by decide
  have sound : ¬ MarkerReset.Malformed state.controllers := by
    rintro ⟨controller, held, unreadable⟩
    cases held
    exact unreadable _ rfl
  exact ⟨confined, marker lacks _ _ rfl rfl, quiet lacks sound, rfl⟩

end State
end WalletCore
