/-! # Access to files

A task reads and writes files through an access that tells how in some monad: on the files of the
machine, or on a disk that is a value.
-/
namespace WalletCore.CommandLine

/-- Why a file cannot be read or written. -/
inductive FileFault where
  /-- There is no such file or directory. -/
  | notFound
  /-- A part of the path in front of the last is a file. -/
  | notADirectory
  /-- The path is that of a directory. -/
  | isADirectory
  /-- No path has this text. -/
  | invalidPath
  /-- The path or a name in it is too long. -/
  | nameTooLong
  /-- The contents are not text. -/
  | invalidData
  /-- Any other fault. -/
  | other
deriving DecidableEq

/-- The wording of a fault. -/
def FileFault.message : FileFault → String
  | .notFound => "no such file or directory"
  | .notADirectory => "not a directory"
  | .isADirectory => "is a directory"
  | .invalidPath => "not a path"
  | .nameTooLong => "a name is too long"
  | .invalidData => "the contents are not text"
  | .other => "the file cannot be used"

/-- How files are read and written in a monad. -/
structure FileAccess (m : Type → Type) where
  /-- The contents of the file at a path. -/
  read : String → m (Except FileFault ByteArray)
  /-- Write a text to the file at a path, which is made if it is not there. -/
  write : String → String → m (Except FileFault Unit)

namespace FileAccess

variable {m : Type → Type} [Monad m]

/-- The text of the file at a path. -/
def readText (files : FileAccess m) (path : String) : m (Except FileFault String) := do
  match ← files.read path with
  | .error fault => pure (.error fault)
  | .ok contents => pure ((String.fromUTF8? contents).elim (.error .invalidData) .ok)

end FileAccess

end WalletCore.CommandLine
