import WalletCore.State.Migration

/-! # The migrator

A migrator holds migrations of distinct versions by ascending version. To a state of some version
it applies the migrations of the higher versions, each to the result of the one before.
-/
namespace WalletCore.State

/-- Migrations by ascending version. -/
structure Migrator where
  /-- The migrations, in the order in which they are applied. -/
  migrations : List Migration
  /-- Every version is below the versions after it. -/
  ascending : migrations.Pairwise fun first second => first.version < second.version

/-- The first version that repeats an earlier one. `seen` holds the versions that came before. -/
def firstRepeated? (seen : List UInt64) : List UInt64 → Option UInt64
  | [] => none
  | version :: versions =>
    if version ∈ seen then some version else firstRepeated? (version :: seen) versions

/-- Without a repeated version, the versions are distinct from each other and from those seen. -/
theorem nodup_of_firstRepeated?_eq_none {seen versions : List UInt64}
    (distinct : firstRepeated? seen versions = none) :
    versions.Nodup ∧ ∀ version ∈ versions, version ∉ seen := by
  induction versions generalizing seen with
  | nil => simp
  | cons version versions ih =>
    simp only [firstRepeated?] at distinct
    split at distinct
    · contradiction
    · rename_i fresh
      obtain ⟨nodup, apart⟩ := ih distinct
      refine ⟨List.nodup_cons.2 ⟨fun member => ?_, nodup⟩, fun other member => ?_⟩
      · exact apart version member (by simp)
      · rcases List.mem_cons.1 member with rfl | later
        · exact fresh
        · exact fun before => apart other later (List.mem_cons_of_mem _ before)

/-- The migrations by ascending version. -/
def sortByVersion (migrations : List Migration) : List Migration :=
  migrations.mergeSort fun first second => first.version ≤ second.version

/-- Migrations of distinct versions stand in strictly ascending order once they are sorted. -/
theorem sortByVersion_ascending {migrations : List Migration}
    (distinct : firstRepeated? [] (migrations.map (·.version)) = none) :
    (sortByVersion migrations).Pairwise fun first second => first.version < second.version := by
  have sorted : (sortByVersion migrations).Pairwise
      fun first second => decide (first.version ≤ second.version) = true :=
    List.pairwise_mergeSort
      (fun first second third below above => by
        simp only [decide_eq_true_eq] at below above ⊢
        exact UInt64.le_trans below above)
      (fun first second => by
        simp only [Bool.or_eq_true, decide_eq_true_eq]
        exact UInt64.le_total _ _)
      migrations
  have nodup : (sortByVersion migrations).Pairwise
      fun first second => first.version ≠ second.version :=
    List.pairwise_map.1 (((List.mergeSort_perm migrations _).map Migration.version).nodup_iff.2
      (nodup_of_firstRepeated?_eq_none distinct).1)
  refine (sorted.and nodup).imp fun {first second} both => ?_
  exact UInt64.lt_of_le_of_ne (of_decide_eq_true both.1) both.2

namespace Migrator

/-- The migrator of some migrations, which must lead to distinct versions. -/
def ofList (migrations : List Migration) : Except Error Migrator :=
  match repeated : firstRepeated? [] (migrations.map (·.version)) with
  | some version => .error (.duplicateVersion version)
  | none => .ok ⟨sortByVersion migrations, sortByVersion_ascending repeated⟩

/-- The versions of the migrations, ascending. -/
def versions (migrator : Migrator) : List UInt64 := migrator.migrations.map (·.version)

/-- The highest version. -/
def latest? (migrator : Migrator) : Option UInt64 := migrator.versions.getLast?

/-- The migrations that a state of a version still lacks. -/
def pending (migrator : Migrator) (version : UInt64) : List Migration :=
  migrator.migrations.filter fun migration => version < migration.version

/-- The versions that a state of a version still lacks. -/
def pendingVersions (migrator : Migrator) (version : UInt64) : List UInt64 :=
  (migrator.pending version).map (·.version)

/-- Apply migrations one after another. -/
def applyAll (migrations : List Migration) (state : Versioned) : Reported Versioned :=
  migrations.foldl
    (fun reached migration =>
      let (next, anomalies) := migration.migrate reached.1
      (next, reached.2 ++ anomalies))
    (state, [])

/-- Apply the migrations that a state lacks. -/
def run (migrator : Migrator) (state : Versioned) : Reported Versioned :=
  applyAll (migrator.pending state.version) state

/-- The text that shows a migrator: the versions that a state of version zero lacks. -/
def describe (migrator : Migrator) : String :=
  "Migrator \x7b versions: [" ++
    ", ".intercalate ((migrator.pendingVersions 0).map toString) ++ "] \x7d"

end Migrator

end WalletCore.State
