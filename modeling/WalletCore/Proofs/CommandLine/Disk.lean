import WalletCore.CommandLine.Disk
import WalletCore.Proofs.CommandLine.FileAccess
import WalletCore.Proofs.Except
import WalletCore.Proofs.Members

/-! # What a disk gives back

A file that was stored is read with what was stored in it, for storing a file moves no directory and
so changes the way to no place. So the access to the files of a disk reads back what it writes.
-/
namespace WalletCore.CommandLine

namespace Disk

/-- What stands under a name that is not too long: a directory, or else a file if there is one. -/
theorem entry_eq_ok_iff {disk : Disk} {parent : List String} {name : String} {found : Entry} :
    disk.entry parent name = .ok found ↔
      ¬ Path.longestName < name.utf8ByteSize ∧
        ((disk.directories.contains (joined (parent ++ [name])) = true ∧ found = .directory) ∨
          (disk.directories.contains (joined (parent ++ [name])) = false ∧
            found = (disk.files.get? (joined (parent ++ [name]))).elim .nothing .file)) := by
  simp only [entry]
  by_cases long : Path.longestName < name.utf8ByteSize
  · simp [long]
  · cases disk.directories.contains (joined (parent ++ [name])) <;> simp [long, eq_comm]

/-- A name that stands for no directory stands for a file or for nothing. -/
theorem elim_ne_directory (contents : Option ByteArray) :
    Entry.directory ≠ contents.elim .nothing .file := by
  cases contents <;> nofun

/-- A part of a path that leads to a directory leads there whatever files there are. -/
theorem enter_files {disk : Disk} {directory reached : List String} {part : String}
    (entered : disk.enter directory part = .ok reached) (files : Members ByteArray) :
    { disk with files }.enter directory part = .ok reached := by
  unfold enter at entered ⊢
  split
  · rename_i point
    rwa [if_pos point] at entered
  rename_i noPoint
  rw [if_neg noPoint] at entered
  split
  · rename_i points
    rwa [if_pos points] at entered
  rename_i noPoints
  rw [if_neg noPoints] at entered
  obtain ⟨found, there, entered⟩ := bind_eq_ok_iff.1 entered
  cases found with
  | file contents => contradiction
  | nothing => contradiction
  | directory =>
    obtain ⟨short, ⟨listed, -⟩ | ⟨-, other⟩⟩ := entry_eq_ok_iff.1 there
    · exact bind_eq_ok_iff.2 ⟨.directory, entry_eq_ok_iff.2 ⟨short, .inl ⟨listed, rfl⟩⟩, entered⟩
    · exact absurd other (elim_ne_directory _)

/-- Parts of a path that lead to a directory lead there whatever files there are. -/
theorem enterAll_files {disk : Disk} {parts directory reached : List String}
    (entered : parts.foldlM disk.enter directory = .ok reached) (files : Members ByteArray) :
    parts.foldlM { disk with files }.enter directory = .ok reached := by
  induction parts generalizing directory with
  | nil => exact entered
  | cons part parts ih =>
    obtain ⟨next, first, others⟩ := bind_eq_ok_iff.1 entered
    exact bind_eq_ok_iff.2 ⟨next, enter_files first files, ih others⟩

/-- A path that leads somewhere leads there whatever files there are. -/
theorem locate_files {disk : Disk} {path : Path} {place : Place}
    (located : disk.locate path = .ok place) (files : Members ByteArray) :
    { disk with files }.locate path = .ok place := by
  obtain ⟨parent, entered, located⟩ := bind_eq_ok_iff.1 located
  exact bind_eq_ok_iff.2 ⟨parent, enterAll_files entered files, located⟩

/-- A file that was stored is read. -/
theorem read_store {disk stored : Disk} {path : String} {contents : ByteArray}
    (succeeded : disk.store path contents = .ok stored) : stored.read path = .ok contents := by
  obtain ⟨parsed, parse, succeeded⟩ := bind_eq_ok_iff.1 succeeded
  obtain ⟨place, located, succeeded⟩ := bind_eq_ok_iff.1 succeeded
  cases place with
  | directory => contradiction
  | entry parent name =>
    simp only at succeeded
    split at succeeded
    · contradiction
    rename_i plain
    obtain ⟨found, there, succeeded⟩ := bind_eq_ok_iff.1 succeeded
    let files := disk.files.put (joined (parent ++ [name])) contents
    have same : stored = { disk with files } := by
      cases found with
      | directory => contradiction
      | file former => exact (Except.ok.inj succeeded).symm
      | nothing => exact (Except.ok.inj succeeded).symm
    obtain ⟨short, ⟨-, rfl⟩ | ⟨unlisted, -⟩⟩ := entry_eq_ok_iff.1 there
    · contradiction
    have now : { disk with files }.entry parent name = .ok (.file contents) := by
      refine entry_eq_ok_iff.2 ⟨short, .inr ⟨unlisted, ?_⟩⟩
      rw [Members.get?_put, if_pos rfl]
      rfl
    rw [same]
    refine bind_eq_ok_iff.2 ⟨parsed, parse, bind_eq_ok_iff.2 ⟨_, locate_files located files, ?_⟩⟩
    refine bind_eq_ok_iff.2 ⟨_, now, ?_⟩
    exact if_neg plain

/-! ## Access to the files of a disk -/

/-- A text that cannot be stored leaves the disk as it is. -/
theorem run_write_of_error {disk : Disk} {path text : String} {fault : FileFault}
    (failed : disk.store path text.toUTF8 = .error fault) :
    (access.write path text).run disk = (.error fault, disk) := by
  simp only [access, StateT.run_bind, StateT.run_get, pure_bind, failed, StateT.run_pure]
  rfl

/-- A text is written by storing its bytes. -/
theorem run_write_of_ok {disk left : Disk} {path text : String}
    (stored : disk.store path text.toUTF8 = .ok left) :
    (access.write path text).run disk = (.ok (), left) := by
  simp only [access, StateT.run_bind, StateT.run_get, pure_bind, stored, StateT.run_set,
    StateT.run_pure]
  rfl

/-- A task that writes a text that can be stored leaves the disk with it. -/
theorem run_writeContent {disk left : Disk} {path text : String}
    (stored : disk.store path text.toUTF8 = .ok left) (content : Content) :
    (writeContent access content path text).run.run disk = (.ok (), left) := by
  simp only [writeContent, ExceptT.run_bind, ExceptT.run_liftM, StateT.run_bind, StateT.run_map,
    run_write_of_ok stored]
  rfl

/-- What is written to a file of a disk is read from it. -/
theorem readsBack_access : access.ReadsBack := by
  intro path text
  apply ExceptT.ext
  apply StateT.ext
  intro disk
  simp only [ExceptT.run_bind, StateT.run_bind, ExceptT.run_mk]
  cases stored : disk.store path text.toUTF8 with
  | error fault =>
    rw [run_write_of_error stored]
    rfl
  | ok left =>
    rw [run_write_of_ok stored]
    change (Except.ok (left.read path), left) = (.ok (.ok text.toUTF8), left)
    rw [read_store stored]

/-- Where a disk is at hand, its files hold what is read from them. -/
theorem holds_set {disk : Disk} {path text : String} (held : disk.read path = .ok text.toUTF8) :
    access.Holds (liftM (set disk : StateM Disk PUnit) : ExceptT Failure (StateM Disk) PUnit)
      path text := by
  apply ExceptT.ext
  apply StateT.ext
  intro former
  change (Except.ok (disk.read path), disk) = (.ok (.ok text.toUTF8), disk)
  rw [held]

end Disk

end WalletCore.CommandLine
