import WalletCore.CommandLine.Run

/-! # The program

Runs the command line on the files of the machine.
-/
namespace WalletCore

open CommandLine (FileAccess FileFault)

/-- The fault that an attempt to use a file met. -/
def fileFault : IO.Error → FileFault
  | .noFileOrDirectory .. => .notFound
  | .inappropriateType .. => .isADirectory
  | .invalidArgument .. => .invalidPath
  | _ => .other

/-- An attempt to use a file. -/
def attempt {α : Type} (action : IO α) : IO (Except FileFault α) := do
  match ← action.toBaseIO with
  | .ok result => pure (.ok result)
  | .error fault => pure (.error (fileFault fault))

/-- Access to the files of the machine. -/
def machineFiles : FileAccess IO where
  read path := attempt (IO.FS.readBinFile path)
  write path text := attempt (IO.FS.writeFile path text)

end WalletCore

open WalletCore in
/-- Run the program, and tell on the error stream why it failed. -/
def main (arguments : List String) : IO UInt32 := do
  let outcome ← CommandLine.run machineFiles arguments
  (← IO.getStdout).putStr outcome.printed
  match outcome with
  | .misused => IO.eprintln "wrong arguments; --help tells the right ones"
  | .failed failure => failure.causes.forM fun cause => IO.eprintln cause.text
  | .done _ => pure ()
  pure outcome.exitCode.toUInt32
