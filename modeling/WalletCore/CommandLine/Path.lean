import WalletCore.CommandLine.FileAccess

/-! # Paths

A path tells the way to a file: names with slashes between them, from the root if it begins with a
slash and else from the directory where relative paths start. A point stays and two points lead up.
Several slashes say no more than one, but one at the end asks for a directory.
-/
namespace WalletCore.CommandLine

/-- A path that was read. -/
structure Path where
  /-- Whether the way begins at the root. -/
  fromRoot : Bool
  /-- The parts of the way: names, and one or two points. -/
  parts : List String
  /-- Whether a slash stands at the end. -/
  slashed : Bool
deriving DecidableEq

namespace Path

/-- The most bytes of a path. -/
def longest : Nat := 4095

/-- The most bytes of one name. -/
def longestName : Nat := 255

/-- Read a path. It holds no zero character, and its bytes are limited. -/
def parse (text : String) : Except FileFault Path :=
  if text.toList.contains '\x00' then .error .invalidPath
  else if longest < text.utf8ByteSize then .error .nameTooLong
  else
    .ok {
      fromRoot := text.toList.head? = some '/'
      parts := (text.splitOn "/").filter fun part => part ≠ ""
      slashed := text.toList.getLast? = some '/' }

/-- Whether a part of a path leads to a directory by itself. -/
def isPoints (part : String) : Bool := part = "." || part = ".."

end Path

end WalletCore.CommandLine
