import WalletCore.State.Migrator

/-! # Runs of a migrator

A run leads to the version of the last migration that it applies, which is the highest one that was
pending (`version_run_cases`). After it no migration is pending, so another run does nothing.
-/
namespace WalletCore.State.Migrator

/-- The last of some migrations is applied to what those before it led to. -/
theorem applyAll_concat (migrations : List Migration) (last : Migration) (state : Versioned) :
    applyAll (migrations ++ [last]) state =
      ((last.migrate (applyAll migrations state).1).1,
        (applyAll migrations state).2 ++ (last.migrate (applyAll migrations state).1).2) := by
  rw [applyAll, List.foldl_append]
  rfl

/-- The last of ascending migrations has the highest version. -/
theorem version_le_last {front : List Migration} {last migration : Migration}
    (ascending : (front ++ [last]).Pairwise fun first second => first.version < second.version)
    (member : migration ∈ front ++ [last]) : migration.version ≤ last.version := by
  rcases List.mem_append.1 member with earlier | final
  · have below := (List.pairwise_append.1 ascending).2.2 migration earlier last
      (List.mem_singleton_self _)
    exact UInt64.le_of_lt below
  · cases List.mem_singleton.1 final
    exact UInt64.le_refl _

/-- A migration is pending if its version is beyond that of the state. -/
theorem mem_pending_iff {migrator : Migrator} {version : UInt64} {migration : Migration} :
    migration ∈ migrator.pending version ↔
      migration ∈ migrator.migrations ∧ version < migration.version := by
  rw [pending, List.mem_filter, decide_eq_true_eq]

/-- A state without pending migrations is left as it is, and nothing is reported. -/
theorem run_of_pending_eq_nil {migrator : Migrator} {state : Versioned}
    (upToDate : migrator.pending state.version = []) : migrator.run state = (state, []) := by
  rw [run, upToDate]
  rfl

/-- Nothing is pending for a state, or a run leads to the highest version that is pending. -/
theorem version_run_cases (migrator : Migrator) (state : Versioned) :
    migrator.pending state.version = [] ∨
      ∃ last ∈ migrator.pending state.version,
        (migrator.run state).1.version = last.version ∧
        ∀ migration ∈ migrator.pending state.version, migration.version ≤ last.version := by
  rcases List.eq_nil_or_concat (migrator.pending state.version) with upToDate | ⟨front, last, parts⟩
  · exact .inl upToDate
  · rw [List.concat_eq_append] at parts
    have ascending : (front ++ [last]).Pairwise
        fun first second => first.version < second.version := by
      rw [← parts]
      exact migrator.ascending.filter _
    rw [run, parts, applyAll_concat]
    exact .inr ⟨last, by simp, rfl, fun migration member => version_le_last ascending member⟩

/-- No migration is pending after a run. -/
theorem pending_run (migrator : Migrator) (state : Versioned) :
    migrator.pending (migrator.run state).1.version = [] := by
  rcases version_run_cases migrator state with upToDate | ⟨last, pending, reached, highest⟩
  · rw [run_of_pending_eq_nil upToDate]
    exact upToDate
  · obtain ⟨-, lacking⟩ := mem_pending_iff.1 pending
    rw [reached]
    refine List.eq_nil_iff_forall_not_mem.2 fun migration later => ?_
    obtain ⟨listed, beyond⟩ := mem_pending_iff.1 later
    have most := highest migration (mem_pending_iff.2 ⟨listed, UInt64.lt_trans lacking beyond⟩)
    exact UInt64.not_lt.2 most beyond

/-- Another run does nothing. -/
theorem run_run (migrator : Migrator) (state : Versioned) :
    migrator.run (migrator.run state).1 = ((migrator.run state).1, []) :=
  run_of_pending_eq_nil (pending_run migrator state)

end WalletCore.State.Migrator
