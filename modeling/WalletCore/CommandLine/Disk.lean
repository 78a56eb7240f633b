import WalletCore.CommandLine.Path
import WalletCore.Members

/-! # Disks

A disk holds the contents of files under paths, and the directories in which files can be made.
The way that a path tells is walked part by part, and the first part that cannot be walked is the
fault of the path. Nothing makes a directory.
-/
namespace WalletCore.CommandLine

/-- Files and directories. -/
structure Disk where
  /-- The contents of each file, by the names on the way from the root with slashes between. -/
  files : Members ByteArray
  /-- The directories besides the root, in the same form. -/
  directories : List String
  /-- The names on the way from the root to the directory where relative paths start. -/
  start : List String

namespace Disk

/-- What stands under a name in a directory. -/
inductive Entry where
  | directory
  | file (contents : ByteArray)
  | nothing

/-- Where a path leads. -/
inductive Place where
  /-- To a directory, by no part or by points at the end. -/
  | directory
  /-- To a name in a directory, whatever stands there. -/
  | entry (parent : List String) (name : String)
deriving DecidableEq

/-- Names on a way in the form under which files and directories are held. -/
def joined (names : List String) : String := "/".intercalate names

/-- The disk without files, with the directories on the way to the start. -/
def empty (start : List String) : Disk where
  files := .empty
  directories := (List.range start.length).map fun count => joined (start.take (count + 1))
  start := start

/-- What stands under a name in a directory. -/
def entry (disk : Disk) (parent : List String) (name : String) : Except FileFault Entry :=
  let key := joined (parent ++ [name])
  if Path.longestName < name.utf8ByteSize then .error .nameTooLong
  else if disk.directories.contains key then .ok .directory
  else .ok ((disk.files.get? key).elim .nothing .file)

/-- The directory to which a part of a path leads from a directory; from the root two points lead
nowhere else. -/
def enter (disk : Disk) (directory : List String) (part : String) :
    Except FileFault (List String) :=
  if part = "." then .ok directory
  else if part = ".." then .ok directory.dropLast
  else do
    match ← disk.entry directory part with
    | .directory => .ok (directory ++ [part])
    | .file _ => .error .notADirectory
    | .nothing => .error .notFound

/-- Where a path leads. -/
def locate (disk : Disk) (path : Path) : Except FileFault Place := do
  let parent ← path.parts.dropLast.foldlM disk.enter (if path.fromRoot then [] else disk.start)
  match path.parts.getLast? with
  | none => .ok .directory
  | some part => .ok (if Path.isPoints part then .directory else .entry parent part)

/-- The contents of a file. -/
def read (disk : Disk) (text : String) : Except FileFault ByteArray := do
  let path ← Path.parse text
  match ← disk.locate path with
  | .directory => .error .isADirectory
  | .entry parent name =>
    match ← disk.entry parent name with
    | .directory => .error .isADirectory
    | .nothing => .error .notFound
    | .file contents => if path.slashed then .error .notADirectory else .ok contents

/-- The disk after contents were stored in a file, which is made if it is not there. -/
def store (disk : Disk) (text : String) (contents : ByteArray) : Except FileFault Disk := do
  let path ← Path.parse text
  match ← disk.locate path with
  | .directory => .error .isADirectory
  | .entry parent name =>
    if path.slashed then .error .isADirectory
    else
      match ← disk.entry parent name with
      | .directory => .error .isADirectory
      | .file _ | .nothing =>
        .ok { disk with files := disk.files.put (joined (parent ++ [name])) contents }

/-- Access to the files of a disk that is a state. -/
def access : FileAccess (StateM Disk) where
  read path := do pure ((← get).read path)
  write path text := do
    match (← get).store path text.toUTF8 with
    | .error fault => pure (.error fault)
    | .ok disk => do
      set disk
      pure (.ok ())

end Disk

end WalletCore.CommandLine
