import WalletCore.Proofs.CommandLine.Disk
import WalletCore.Proofs.State.Migrator
import WalletCore.Proofs.State.Storage

/-! # Migrated files

A state that was migrated and written to a file is read from it as it is: the version, the
controllers and the order of everything in them. Migrating the file once more finds nothing to do,
reports nothing and writes the same text (`migrated_state_stable`), however files are read and
written, if only they give back what was written to them. Numbers are the one thing that may not
survive, so all of them are to be integers.
-/
namespace WalletCore.CommandLine

open State

variable {m : Type → Type} [Monad m] {α : Type} {files : FileAccess m} {input output text : String}
  {state : Versioned}

/-- What the migration of a file does after some steps that may fail. -/
structure Migrates (files : FileAccess m) (steps : ExceptT Failure m α) (input output : String)
    (report : MigrationReport) : Prop where
  /-- The file is read, the text of the migrated state is written, and the report is given. -/
  runs :
    (do
      let _ ← steps
      migrateFile files input (some output)) =
    (do
      let _ ← steps
      let _ ← liftM (files.read input)
      writeContent files .state output report.migrated.pretty
      pure report)
  /-- The file that was written holds that text. -/
  leaves :
    files.Holds
      (do
        let _ ← steps
        migrateFile files input (some output))
      output report.migrated.pretty

/-- A file that holds a state is migrated to what the migrations make of that state. -/
theorem migrates_of_holds [LawfulMonad m] {steps : ExceptT Failure m α}
    (readsBack : files.ReadsBack) (holds : files.Holds steps input text)
    (read : Versioned.ofText text = .ok state) :
    Migrates files steps input output
      ⟨state.version, (builtinMigrator.run state).2, (builtinMigrator.run state).1⟩ := by
  have decoded : (ofExcept ((Versioned.ofText text).mapError (.stateless input)) :
      ExceptT Failure m Versioned) = pure state := by
    rw [read]
    rfl
  have runs :
      (do
        let _ ← steps
        migrateFile files input (some output)) =
      (do
        let _ ← steps
        let _ ← liftM (files.read input)
        writeContent files .state output (builtinMigrator.run state).1.pretty
        pure ⟨state.version, (builtinMigrator.run state).2, (builtinMigrator.run state).1⟩) := by
    have followed := holds.followed_readContent .state fun text => do
      let state ← ofExcept ((Versioned.ofText text).mapError (.stateless input))
      writeContent files .state output (builtinMigrator.run state).1.pretty
      pure (⟨state.version, (builtinMigrator.run state).2,
        (builtinMigrator.run state).1⟩ : MigrationReport)
    simp only [decoded, pure_bind] at followed
    exact followed
  refine ⟨runs, ?_⟩
  rw [runs]
  refine .bind fun _ => .bind fun _ => ?_
  exact (readsBack.holds_writeContent .state output _).bind_pure _

/-- On a disk the migration of a file gives its report and leaves the disk with the text stored. -/
theorem Migrates.run_access {disk written : Disk} {report : MigrationReport}
    (migrates : Migrates Disk.access (liftM (set disk : StateM Disk PUnit)) input output report)
    (stored : disk.store output report.migrated.pretty.toUTF8 = .ok written) :
    (migrateFile Disk.access input (some output)).run.run disk = (.ok report, written) := by
  have ran := congrArg (fun task => task.run.run disk) migrates.runs
  refine ran.trans ?_
  -- Neither the first step nor reading the file leaves another disk.
  change StateT.run (writeContent Disk.access .state output report.migrated.pretty >>=
    fun _ => pure report : ExceptT Failure (StateM Disk) MigrationReport).run disk = _
  rw [ExceptT.run_bind, StateT.run_bind, Disk.run_writeContent stored]
  rfl

/-- A state that is read and whose numbers are integers is, once it is migrated, read from its
written form again as it is, and another migration does nothing to it. So the migration of a file
with the first text writes that form and reports what was found, the migration of a file with that
form writes it again and reports no anomaly, and the files to which they write hold it. -/
theorem migrated_state_stable (read : Versioned.ofText text = .ok state)
    (whole : ∀ entry ∈ state.controllers.entries, entry.2.Whole) :
    let migrated := (builtinMigrator.run state).1
    let first : MigrationReport := ⟨state.version, (builtinMigrator.run state).2, migrated⟩
    let again : MigrationReport := ⟨migrated.version, [], migrated⟩
    Versioned.ofText migrated.pretty = .ok migrated ∧
      builtinMigrator.run migrated = (migrated, []) ∧
      (∀ {m : Type → Type} [Monad m] [LawfulMonad m] {α : Type} (files : FileAccess m)
        (steps : ExceptT Failure m α) (input output : String), files.ReadsBack →
        (files.Holds steps input text →
          Migrates files steps input output first ∧
          ∀ last, Migrates files (steps >>= fun _ => migrateFile files input (some output))
            output last again) ∧
        (files.Holds steps input migrated.pretty → Migrates files steps input output again)) ∧
      ∀ (disk written : Disk) (input output : String),
        disk.store output migrated.pretty.toUTF8 = .ok written →
        (disk.read input = .ok text.toUTF8 →
          (migrateFile Disk.access input (some output)).run.run disk = (.ok first, written)) ∧
        (disk.read input = .ok migrated.pretty.toUTF8 →
          (migrateFile Disk.access input (some output)).run.run disk = (.ok again, written)) ∧
        written.read output = .ok migrated.pretty.toUTF8 := by
  intro migrated first again
  have storable : migrated.controllers.Storable 125 :=
    storable_run (Versioned.storable_of_ofText read whole)
  have restored : Versioned.ofText migrated.pretty = .ok migrated :=
    Versioned.ofText_pretty storable
  have settled : builtinMigrator.run migrated = (migrated, []) := builtinMigrator.run_run state
  have once : ∀ {m : Type → Type} [Monad m] [LawfulMonad m] {α : Type} {files : FileAccess m}
      {steps : ExceptT Failure m α} {input output : String}, files.ReadsBack →
      files.Holds steps input text → Migrates files steps input output first :=
    fun readsBack holds => migrates_of_holds readsBack holds read
  have twice : ∀ {m : Type → Type} [Monad m] [LawfulMonad m] {α : Type} {files : FileAccess m}
      {steps : ExceptT Failure m α} {input output : String}, files.ReadsBack →
      files.Holds steps input migrated.pretty → Migrates files steps input output again := by
    intro m _ _ α files steps input output readsBack holds
    have migrates : Migrates files steps input output ⟨migrated.version,
        (builtinMigrator.run migrated).2, (builtinMigrator.run migrated).1⟩ :=
      migrates_of_holds readsBack holds restored
    rw [settled] at migrates
    exact migrates
  refine ⟨restored, settled, fun files steps input output readsBack => ⟨fun holds => ?_, ?_⟩, ?_⟩
  · have migrates : Migrates files steps input output first := once readsBack holds
    exact ⟨migrates, fun last => twice readsBack migrates.leaves⟩
  · exact twice readsBack
  · intro disk written input output stored
    refine ⟨fun held => ?_, fun held => ?_, Disk.read_store stored⟩
    · exact (once Disk.readsBack_access (Disk.holds_set held)).run_access stored
    · exact (twice Disk.readsBack_access (Disk.holds_set held)).run_access stored

/-- A text with escapes and with the largest integer is migrated in place, and the file with the
result is migrated in place once more. -/
theorem migrated_state_stable_in_place :
    let text := "\x7b\"data\": \x7b\"Notes\": [-5, 18446744073709551615, \"\\u0007\\\"\"], " ++
      "\"PreferencesController\": \x7b\"preferences\": \x7b\x7d\x7d\x7d, " ++
      "\"meta\": \x7b\"version\": 134\x7d\x7d"
    let notes := Json.array [.number (.integer (-5) (by decide)),
      .number (.ofUInt64 18446744073709551615), .string "\x07\""]
    let state : Versioned := ⟨134, Members.ofList [("Notes", notes),
      (MarkerReset.controllerName, .object [(MarkerReset.partName, .object [])])]⟩
    let migrated := (builtinMigrator.run state).1
    let first : MigrationReport := ⟨134, (builtinMigrator.run state).2, migrated⟩
    let again : MigrationReport := ⟨migrated.version, [], migrated⟩
    let before : Disk := ⟨Members.empty.put "s" text.toUTF8, [], []⟩
    let after : Disk := ⟨Members.empty.put "s" migrated.pretty.toUTF8, [], []⟩
    let start : ExceptT Failure (StateM Disk) PUnit := liftM (set before : StateM Disk PUnit)
    Versioned.ofText text = .ok state ∧ migrated.controllers ≠ state.controllers ∧
      Versioned.ofText migrated.pretty = .ok migrated ∧
      builtinMigrator.run migrated = (migrated, []) ∧
      Disk.access.ReadsBack ∧ Disk.access.Holds start "s" text ∧
      Migrates Disk.access start "s" "s" first ∧
      Migrates Disk.access (start >>= fun _ => migrateFile Disk.access "s" (some "s")) "s" "s"
        again ∧
      (migrateFile Disk.access "s" (some "s")).run.run before = (.ok first, after) ∧
      ∃ written, (migrateFile Disk.access "s" (some "s")).run.run after = (.ok again, written) ∧
        written.read "s" = .ok migrated.pretty.toUTF8 := by
  intro text notes state migrated first again before after start
  have read : Versioned.ofText text = .ok state := toOption_eq_some_iff.1 (by decide +kernel)
  have whole : ∀ entry ∈ state.controllers.entries, entry.2.Whole := by
    have small : Number.Whole (.integer (-5) (by decide)) := .integer _ _
    have large : Number.Whole (.ofUInt64 18446744073709551615) := .integer _ _
    refine List.forall_mem_cons.2 ⟨.array ?_, List.forall_mem_singleton.2 (.object ?_)⟩
    · exact List.forall_mem_cons.2 ⟨.number small, List.forall_mem_cons.2
        ⟨.number large, List.forall_mem_singleton.2 (.string _)⟩⟩
    · exact List.forall_mem_singleton.2 (.object (List.forall_mem_nil _))
  have path : Path.parse "s" = .ok ⟨false, ["s"], false⟩ := by
    have split : "s".splitOn "/" = ["s"] := by
      have first : "s".splitOnAux "/" 0 0 0 [] = "s".splitOnAux "/" 0 ⟨1⟩ 0 [] := by
        rw [String.splitOnAux]
        rfl
      have last : "s".splitOnAux "/" 0 ⟨1⟩ 0 [] = ["s"] := by
        rw [String.splitOnAux]
        rfl
      exact first.trans last
    rw [Path.parse, split]
    rfl
  have held : ∀ contents : ByteArray,
      Disk.read ⟨Members.empty.put "s" contents, [], []⟩ "s" = .ok contents := by
    intro contents
    rw [Disk.read, path]
    rfl
  have stored : ∀ contents : ByteArray,
      Disk.store ⟨Members.empty.put "s" contents, [], []⟩ "s" migrated.pretty.toUTF8 =
        .ok after := by
    intro contents
    rw [Disk.store, path]
    rfl
  obtain ⟨restored, settled, anyFiles, disks⟩ := migrated_state_stable read whole
  have holds : Disk.access.Holds start "s" text := Disk.holds_set (held text.toUTF8)
  obtain ⟨once, twice⟩ :=
    (anyFiles Disk.access start "s" "s" Disk.readsBack_access).1 holds
  obtain ⟨changes, -, -⟩ := disks before after "s" "s" (stored _)
  obtain ⟨-, keeps, -⟩ := disks after after "s" "s" (stored _)
  exact ⟨read, by decide +kernel, restored, settled, Disk.readsBack_access, holds, once,
    twice "s", changes (held _), after, keeps (held _), held _⟩

end WalletCore.CommandLine
