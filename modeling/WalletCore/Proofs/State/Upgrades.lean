import Mathlib.Data.List.Induction
import WalletCore.Proofs.Repetition
import WalletCore.Proofs.State.Migrator
import WalletCore.State.Trail

/-! # Upgrades

A migrator is made of migrations of distinct versions, whatever the order in which they are listed
(`ofList_eq_ok_iff`), and of no others (`ofList_eq_error_iff`). It applies the migrations that a
state lacks, each once and by ascending version, to what the one before led to
(`applied_applyAll`), and ends at the highest version (`version_run`). As only the versions decide
what is applied, migrations may be split between two migrators at any version: run one after the
other they do what a migrator of all of them does (`run_eq_of_append`).
-/
namespace WalletCore.State

/-! ## Repeated versions -/

/-- The first version in a list that repeats an earlier one. -/
inductive FirstRepeat : List UInt64 → UInt64 → Prop where
  /-- The versions before it are distinct, and it is one of them. -/
  | after {earlier later : List UInt64} {version : UInt64} (distinct : earlier.Nodup)
      (again : version ∈ earlier) : FirstRepeat (earlier ++ version :: later) version

/-- The version that is found is the first one that was seen or that repeats an earlier one. -/
theorem firstRepeated?_eq_some_iff {seen versions : List UInt64} {version : UInt64} :
    firstRepeated? seen versions = some version ↔ FirstClash (· ∈ seen) versions version := by
  induction versions generalizing seen with
  | nil => exact iff_of_false nofun (not_firstClash_nil version)
  | cons first others ih =>
    rw [firstRepeated?, firstClash_cons_iff]
    by_cases known : first ∈ seen
    · rw [if_pos known]
      simp [known, eq_comm]
    · rw [if_neg known, ih]
      simp [known]

/-- Where no version was seen before, the first one that repeats an earlier one is found. -/
theorem firstRepeated?_nil_eq_some_iff {versions : List UInt64} {version : UInt64} :
    firstRepeated? [] versions = some version ↔ FirstRepeat versions version := by
  rw [firstRepeated?_eq_some_iff]
  constructor
  · intro clash
    cases clash with
    | after distinct apart again => exact .after distinct (again.resolve_left List.not_mem_nil)
  · intro repeats
    cases repeats with
    | after distinct again =>
      exact .after distinct (fun _ _ => List.not_mem_nil) (.inr again)

/-- Versions among which one repeats another are not distinct. -/
theorem FirstRepeat.not_nodup {versions : List UInt64} {version : UInt64}
    (repeats : FirstRepeat versions version) : ¬ versions.Nodup := by
  cases repeats with
  | after distinct again =>
    intro nodup
    exact (List.nodup_append.1 nodup).2.2 version again version List.mem_cons_self rfl

/-- No version is found exactly if the versions are distinct. -/
theorem firstRepeated?_nil_eq_none_iff {versions : List UInt64} :
    firstRepeated? [] versions = none ↔ versions.Nodup := by
  constructor
  · exact fun unrepeated => (nodup_of_firstRepeated?_eq_none unrepeated).1
  · intro nodup
    cases found : firstRepeated? [] versions with
    | none => rfl
    | some version =>
      exact absurd nodup (firstRepeated?_nil_eq_some_iff.1 found).not_nodup

namespace Migrator

/-! ## Building a migrator -/

/-- The versions of a migrator are distinct. -/
theorem nodup_versions (migrator : Migrator) : migrator.versions.Nodup := by
  refine List.pairwise_map.2 (migrator.ascending.imp fun below same => ?_)
  rw [same] at below
  exact UInt64.lt_irrefl _ below

/-- Migrations stand in ascending order in one way only. -/
theorem eq_of_perm {first second : Migrator}
    (same : first.migrations.Perm second.migrations) : first = second := by
  have equal : first.migrations = second.migrations := by
    refine List.Perm.eq_of_pairwise (fun before after _ _ below above => ?_) first.ascending
      second.ascending same
    exact absurd below (UInt64.lt_asymm above)
  cases first
  cases second
  cases equal
  rfl

/-- No migrator is made where a version repeats an earlier one, and the first such is named. -/
theorem ofList_eq_error_iff {migrations : List Migration} {error : Error} :
    ofList migrations = .error error ↔
      ∃ version, FirstRepeat (migrations.map (·.version)) version ∧
        error = .duplicateVersion version := by
  unfold ofList
  split
  · rename_i version found
    have repeats := firstRepeated?_nil_eq_some_iff.1 found
    constructor
    · intro same
      cases same
      exact ⟨version, repeats, rfl⟩
    · rintro ⟨other, again, rfl⟩
      rw [firstRepeated?_nil_eq_some_iff.2 again] at found
      cases found
      rfl
  · rename_i unrepeated
    refine iff_of_false nofun ?_
    rintro ⟨version, repeats, -⟩
    exact repeats.not_nodup (firstRepeated?_nil_eq_none_iff.1 unrepeated)

/-- Of migrations of distinct versions a migrator is made. -/
theorem exists_ofList_of_nodup {migrations : List Migration}
    (distinct : (migrations.map (·.version)).Nodup) :
    ∃ migrator, ofList migrations = .ok migrator := by
  cases result : ofList migrations with
  | ok migrator => exact ⟨migrator, rfl⟩
  | error error =>
    obtain ⟨version, repeats, -⟩ := ofList_eq_error_iff.1 result
    exact absurd distinct repeats.not_nodup

/-- The migrator of some migrations is the one that holds them, by ascending version. -/
theorem ofList_eq_ok_iff {migrations : List Migration} {migrator : Migrator} :
    ofList migrations = .ok migrator ↔ migrator.migrations.Perm migrations := by
  have holds : ∀ {made : Migrator}, ofList migrations = .ok made →
      made.migrations.Perm migrations := by
    intro made result
    unfold ofList at result
    split at result
    · contradiction
    · cases result
      exact List.mergeSort_perm _ _
  constructor
  · exact holds
  · intro same
    have distinct : (migrations.map (·.version)).Nodup :=
      (same.map Migration.version).nodup_iff.1 migrator.nodup_versions
    obtain ⟨made, result⟩ := exists_ofList_of_nodup distinct
    rw [result, eq_of_perm ((holds result).trans same.symm)]

/-! ## Applying migrations -/

/-- Migrations that were applied to a state, each to what the one before led to: the state that was
reached, and what was reported on the way. -/
inductive Applied : List Migration → Versioned → Versioned → List Anomaly → Prop where
  /-- No migration was applied. -/
  | none (state : Versioned) : Applied [] state state []
  /-- The first migration changed the controllers and set its version, and the others were applied
  to that. -/
  | next {migration : Migration} {migrations : List Migration} {state reached : Versioned}
      {controllers : Controllers} {reported anomalies : List Anomaly}
      (transformed : migration.transform state.controllers = (controllers, reported))
      (others : Applied migrations ⟨migration.version, controllers⟩ reached anomalies) :
    Applied (migration :: migrations) state reached (reported ++ anomalies)

/-- Migrations are applied to what those before them led to. -/
theorem applyAll_append (front back : List Migration) (state : Versioned) :
    applyAll (front ++ back) state =
      ((applyAll back (applyAll front state).1).1,
        (applyAll front state).2 ++ (applyAll back (applyAll front state).1).2) := by
  induction back using List.reverseRecOn with
  | nil =>
    have nothing : applyAll [] (applyAll front state).1 = ((applyAll front state).1, []) := rfl
    rw [List.append_nil, nothing, List.append_nil]
  | append_singleton back last ih =>
    rw [← List.append_assoc, applyAll_concat, applyAll_concat, ih, List.append_assoc]

/-- Applying migrations applies them one after another. -/
theorem applied_applyAll (migrations : List Migration) (state : Versioned) :
    Applied migrations state (applyAll migrations state).1 (applyAll migrations state).2 := by
  induction migrations generalizing state with
  | nil => exact .none state
  | cons migration migrations ih =>
    have first : applyAll [migration] state = migration.migrate state := rfl
    have whole := applyAll_append [migration] migrations state
    rw [List.singleton_append, first] at whole
    rw [whole]
    exact .next rfl (ih _)

/-! ## The version that is reached -/

/-- The latest version is the highest one. -/
theorem latest?_eq_some_iff {migrator : Migrator} {latest : UInt64} :
    migrator.latest? = some latest ↔
      latest ∈ migrator.versions ∧ ∀ version ∈ migrator.versions, version ≤ latest := by
  have highest : ∀ {last : UInt64}, migrator.latest? = some last →
      last ∈ migrator.versions ∧ ∀ version ∈ migrator.versions, version ≤ last := by
    intro last found
    rw [latest?, versions, List.getLast?_map] at found
    obtain ⟨newest, final, rfl⟩ := Option.map_eq_some_iff.1 found
    obtain ⟨front, whole⟩ := List.getLast?_eq_some_iff.1 final
    have ascending := migrator.ascending
    rw [versions]
    rw [whole] at ascending ⊢
    refine ⟨by simp, fun version member => ?_⟩
    obtain ⟨migration, listed, rfl⟩ := List.mem_map.1 member
    exact version_le_last ascending listed
  constructor
  · exact highest
  · rintro ⟨member, above⟩
    cases found : migrator.latest? with
    | none =>
      rw [List.getLast?_eq_none_iff.1 found] at member
      exact absurd member List.not_mem_nil
    | some last =>
      obtain ⟨listed, most⟩ := highest found
      rw [UInt64.le_antisymm (above last listed) (most latest member)]

/-- No migration is pending from the latest version on. -/
theorem pending_eq_nil {migrator : Migrator} {version : UInt64}
    (reached : ∀ latest, migrator.latest? = some latest → latest ≤ version) :
    migrator.pending version = [] := by
  refine List.eq_nil_iff_forall_not_mem.2 fun migration pending => ?_
  obtain ⟨listed, beyond⟩ := mem_pending_iff.1 pending
  cases found : migrator.latest? with
  | none =>
    rw [List.map_eq_nil_iff.1 (List.getLast?_eq_none_iff.1 found)] at listed
    exact List.not_mem_nil listed
  | some latest =>
    have most := (latest?_eq_some_iff.1 found).2 migration.version (List.mem_map_of_mem listed)
    have upToDate := reached latest found
    exact UInt64.not_lt.2 (UInt64.le_trans most upToDate) beyond

/-- A run leads to the latest version, unless the state is beyond it. -/
theorem version_run (migrator : Migrator) (state : Versioned) :
    (migrator.run state).1.version =
      migrator.latest?.elim state.version (max state.version) := by
  cases found : migrator.latest? with
  | none =>
    have upToDate : migrator.pending state.version = [] :=
      pending_eq_nil fun latest highest => by rw [found] at highest; contradiction
    rw [run_of_pending_eq_nil upToDate, Option.elim_none]
  | some latest =>
    obtain ⟨member, most⟩ := latest?_eq_some_iff.1 found
    obtain ⟨newest, listed, same⟩ := List.mem_map.1 member
    have highest : max state.version latest =
        if state.version ≤ latest then latest else state.version := rfl
    rw [Option.elim_some, highest]
    rcases version_run_cases migrator state with upToDate | ⟨last, pending, reached, above⟩
    · rw [run_of_pending_eq_nil upToDate]
      split
      · rename_i before
        refine UInt64.le_antisymm before (UInt64.not_lt.1 fun behind => ?_)
        have pending := mem_pending_iff.2 ⟨listed, same ▸ behind⟩
        rw [upToDate] at pending
        exact List.not_mem_nil pending
      · rfl
    · obtain ⟨stands, beyond⟩ := mem_pending_iff.1 pending
      have below := most last.version (List.mem_map_of_mem stands)
      have ahead := UInt64.lt_of_lt_of_le beyond below
      have final := above newest (mem_pending_iff.2 ⟨listed, same ▸ ahead⟩)
      rw [reached, if_pos (UInt64.le_of_lt ahead)]
      exact UInt64.le_antisymm below (same ▸ final)

/-! ## Whole runs -/

/-- What becomes of a state that some migrations are run on, of which `latest` is the highest
version. -/
structure Upgraded (migrations : List Migration) (latest : Option UInt64)
    (state reached : Versioned) (anomalies : List Anomaly) : Prop where
  /-- The migrations beyond the version of the state were applied, each of them once and by
  ascending version, and they reported the anomalies. -/
  applied : ∃ pending,
    pending.Perm (migrations.filter fun migration => state.version < migration.version) ∧
      pending.Pairwise (fun first second => first.version < second.version) ∧
      Applied pending state reached anomalies
  /-- The version is the higher one of that of the state and the latest. -/
  version : reached.version = latest.elim state.version (max state.version)
  /-- A state that is not behind the latest version is as it was, and nothing was reported. -/
  upToDate : (∀ version, latest = some version → version ≤ state.version) →
    reached = state ∧ anomalies = []

/-- A run upgrades a state with the migrations that the migrator is made of. -/
theorem upgraded_run {migrations : List Migration} {migrator : Migrator}
    (made : ofList migrations = .ok migrator) (state : Versioned) :
    Upgraded migrations migrator.latest? state (migrator.run state).1 (migrator.run state).2 where
  applied := by
    refine ⟨migrator.pending state.version, ?_, migrator.ascending.filter _, ?_⟩
    · exact (ofList_eq_ok_iff.1 made).filter _
    · exact applied_applyAll _ state
  version := version_run migrator state
  upToDate := by
    intro reached
    rw [run_of_pending_eq_nil (pending_eq_nil reached)]
    exact ⟨rfl, rfl⟩

/-- A migrator is made of migrations exactly if their versions are distinct, whatever their order,
and otherwise the first version that repeats an earlier one is named. A run applies the migrations
that a state lacks, each once, by ascending version and to what the one before led to. -/
theorem pending_applied_in_order (migrations : List Migration) :
    ((∃ error, ofList migrations = .error error) ↔ ¬ (migrations.map (·.version)).Nodup) ∧
      (∀ error, ofList migrations = .error error ↔
        ∃ version, FirstRepeat (migrations.map (·.version)) version ∧
          error = .duplicateVersion version) ∧
      ∀ migrator, ofList migrations = .ok migrator →
        (∀ others, others.Perm migrations → ofList others = .ok migrator) ∧
        (∀ latest, migrator.latest? = some latest ↔ latest ∈ migrations.map (·.version) ∧
          ∀ version ∈ migrations.map (·.version), version ≤ latest) ∧
        ∀ state, Upgraded migrations migrator.latest? state
          (migrator.run state).1 (migrator.run state).2 := by
  refine ⟨⟨?_, fun repeated => ?_⟩, fun error => ofList_eq_error_iff, fun migrator made => ?_⟩
  · rintro ⟨error, failed⟩
    obtain ⟨version, repeats, -⟩ := ofList_eq_error_iff.1 failed
    exact repeats.not_nodup
  · cases result : ofList migrations with
    | error error => exact ⟨error, rfl⟩
    | ok migrator =>
      have same := (ofList_eq_ok_iff.1 result).map Migration.version
      exact absurd (same.nodup_iff.1 migrator.nodup_versions) repeated
  · have holds := ofList_eq_ok_iff.1 made
    refine ⟨fun others same => ?_, fun latest => ?_, upgraded_run made⟩
    · exact ofList_eq_ok_iff.2 (holds.trans same.symm)
    · have listed : ∀ version, version ∈ migrator.versions ↔
          version ∈ migrations.map (·.version) :=
        fun version => (holds.map Migration.version).mem_iff
      rw [latest?_eq_some_iff]
      simp only [listed]

/-- Of three migrations that are listed in any order, a state at the version of the lowest lacks the
other two. -/
theorem pending_applied_in_order_on_trail :
    let migrations := [Trail.migration 5, Trail.migration 2, Trail.migration 9]
    let others := [Trail.migration 9, Trail.migration 5, Trail.migration 2]
    let state := Versioned.ofVersion 2
    ∃ migrator reached, ofList migrations = .ok migrator ∧ ofList others = .ok migrator ∧
      migrator.latest? = some 9 ∧ migrator.run state = (reached, []) ∧
      Upgraded migrations (some 9) state reached [] ∧ reached.version = 9 ∧
      reached.controllers.get? Trail.name =
        some (.array [.number (.ofUInt64 5), .number (.ofUInt64 9)]) := by
  intro migrations others state
  let migrator : Migrator :=
    ⟨[Trail.migration 2, Trail.migration 5, Trail.migration 9], by decide⟩
  have made : ofList migrations = .ok migrator := ofList_eq_ok_iff.2 (.swap _ _ _)
  have rotated : others.Perm migrations :=
    (List.Perm.swap _ _ _).trans (.cons _ (.swap _ _ _))
  obtain ⟨-, -, running⟩ := pending_applied_in_order migrations
  obtain ⟨unordered, -, upgraded⟩ := running migrator made
  exact ⟨migrator, (migrator.run state).1, made, unordered others rotated, rfl, rfl,
    upgraded state, rfl, rfl⟩

/-! ## Upgrades in stages -/

/-- Where one migrator holds the migrations of another one and then higher ones, the pending
migrations of the higher ones are the same before and after a run of the lower ones. -/
theorem pending_run_of_below {low high : Migrator}
    (below : ∀ first ∈ low.migrations, ∀ second ∈ high.migrations, first.version < second.version)
    (state : Versioned) :
    high.pending (low.run state).1.version = high.pending state.version := by
  rcases version_run_cases low state with upToDate | ⟨first, pending, led, -⟩
  · rw [run_of_pending_eq_nil upToDate]
  · obtain ⟨listed, beyond⟩ := mem_pending_iff.1 pending
    refine List.filter_congr fun second member => ?_
    have later : first.version < second.version := below first listed second member
    rw [led, decide_eq_true later, decide_eq_true (UInt64.lt_trans beyond later)]

/-- A migrator of the migrations of two others, one below the other, does what they do one after
the other. -/
theorem run_eq_of_append {low high all : Migrator}
    (whole : all.migrations = low.migrations ++ high.migrations) (state : Versioned) :
    all.run state = ((high.run (low.run state).1).1,
      (low.run state).2 ++ (high.run (low.run state).1).2) := by
  have ascending := all.ascending
  rw [whole] at ascending
  have below := (List.pairwise_append.1 ascending).2.2
  have pending : all.pending state.version =
      low.pending state.version ++ high.pending (low.run state).1.version := by
    rw [pending_run_of_below below]
    simp only [Migrator.pending, whole, List.filter_append]
  rw [run, pending, applyAll_append]
  rfl

/-- Migrations of distinct versions that are split in two parts at any version are run in two stages
as in one. -/
theorem staged_run_eq_run {whole lower higher : List Migration}
    (parts : whole.Perm (lower ++ higher)) (distinct : (whole.map (·.version)).Nodup)
    (below : ∀ first ∈ lower, ∀ second ∈ higher, first.version < second.version) :
    ∃ low high all, ofList lower = .ok low ∧ ofList higher = .ok high ∧
      ofList whole = .ok all ∧
      ∀ state, all.run state = ((high.run (low.run state).1).1,
        (low.run state).2 ++ (high.run (low.run state).1).2) := by
  have versions : (lower.map (·.version) ++ higher.map (·.version)).Nodup := by
    rw [← List.map_append]
    exact (parts.map Migration.version).nodup_iff.1 distinct
  obtain ⟨distinctLower, distinctHigher, -⟩ := List.nodup_append.1 versions
  obtain ⟨low, madeLow⟩ := exists_ofList_of_nodup distinctLower
  obtain ⟨high, madeHigh⟩ := exists_ofList_of_nodup distinctHigher
  have holdsLow := ofList_eq_ok_iff.1 madeLow
  have holdsHigh := ofList_eq_ok_iff.1 madeHigh
  have ascending : (low.migrations ++ high.migrations).Pairwise
      fun first second => first.version < second.version := by
    refine List.pairwise_append.2 ⟨low.ascending, high.ascending, ?_⟩
    intro first inLow second inHigh
    exact below first (holdsLow.mem_iff.1 inLow) second (holdsHigh.mem_iff.1 inHigh)
  let all : Migrator := ⟨low.migrations ++ high.migrations, ascending⟩
  have madeAll : ofList whole = .ok all :=
    ofList_eq_ok_iff.2 ((holdsLow.append holdsHigh).trans parts.symm)
  exact ⟨low, high, all, madeLow, madeHigh, madeAll, run_eq_of_append rfl⟩

/-- Three migrations in two stages, from the version of the lowest on: the other two leave their
versions on the trail, the lower one first. -/
theorem staged_run_eq_run_on_trail :
    let whole := [Trail.migration 9, Trail.migration 5, Trail.migration 2]
    let lower := [Trail.migration 5, Trail.migration 2]
    let higher := [Trail.migration 9]
    let state := Versioned.ofVersion 2
    whole.Perm (lower ++ higher) ∧ (whole.map (·.version)).Nodup ∧
      (∀ first ∈ lower, ∀ second ∈ higher, first.version < second.version) ∧
      ∃ low high all between reached, ofList lower = .ok low ∧ ofList higher = .ok high ∧
        ofList whole = .ok all ∧
        all.run state = ((high.run (low.run state).1).1,
          (low.run state).2 ++ (high.run (low.run state).1).2) ∧
        all.versions = [2, 5, 9] ∧
        low.run state = (between, []) ∧ between.version = 5 ∧
        between.controllers.get? Trail.name = some (.array [.number (.ofUInt64 5)]) ∧
        all.run state = (reached, []) ∧ reached.version = 9 ∧
        reached.controllers.get? Trail.name =
          some (.array [.number (.ofUInt64 5), .number (.ofUInt64 9)]) := by
  intro whole lower higher state
  have parts : whole.Perm (lower ++ higher) :=
    (List.Perm.swap _ _ _).trans (.cons _ (.swap _ _ _))
  have distinct : (whole.map (·.version)).Nodup := by decide
  have below : ∀ first ∈ lower, ∀ second ∈ higher, first.version < second.version := by
    simp only [lower, higher, List.forall_mem_cons]
    decide
  obtain ⟨low, high, all, madeLow, madeHigh, madeAll, staged⟩ :=
    staged_run_eq_run parts distinct below
  have sortedLow : ofList lower = .ok ⟨[Trail.migration 2, Trail.migration 5], by decide⟩ :=
    ofList_eq_ok_iff.2 (.swap _ _ _)
  have sorted : ofList whole = .ok
      ⟨[Trail.migration 2, Trail.migration 5, Trail.migration 9], by decide⟩ :=
    ofList_eq_ok_iff.2 ((List.Perm.cons _ (.swap _ _ _)).trans
      ((List.Perm.swap _ _ _).trans (.cons _ (.swap _ _ _))))
  have sameLow := madeLow.symm.trans sortedLow
  have same := madeAll.symm.trans sorted
  refine ⟨parts, distinct, below, low, high, all, (low.run state).1, (all.run state).1,
    madeLow, madeHigh, madeAll, staged state, ?_⟩
  cases sameLow
  cases same
  exact ⟨rfl, rfl, rfl, rfl, rfl, rfl, rfl⟩

end Migrator

end WalletCore.State
