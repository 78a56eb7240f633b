import WalletCore.CommandLine.Help
import WalletCore.CommandLine.Task

/-! # Runs of the command line

A run takes the arguments to what the program prints and its exit code, with access to files. Wrong
arguments have exit code two and a task that fails has exit code one; neither prints anything.
-/
namespace WalletCore.CommandLine

/-- How a run of the program ends. -/
inductive Outcome where
  /-- The arguments are wrong. -/
  | misused
  /-- The task failed. -/
  | failed (failure : Failure)
  /-- All went well, and this is to be printed. -/
  | done (printed : String)

namespace Outcome

/-- The exit code. -/
def exitCode : Outcome → UInt8
  | .misused => 2
  | .failed _ => 1
  | .done _ => 0

/-- What is printed. -/
def printed : Outcome → String
  | .misused | .failed _ => ""
  | .done printed => printed

end Outcome

/-- A text as a line of its own. -/
def line (text : String) : String := text ++ "\n"

/-- What a migration prints: its anomalies, and the state unless it was written to a file. -/
def MigrationReport.print (report : MigrationReport) (written : Bool) : String :=
  String.join (report.anomalies.map fun anomaly => line ("anomaly: " ++ anomaly.message)) ++
    if written then "" else line report.migrated.pretty

variable {m : Type → Type} [Monad m]

/-- Perform a task, to what it prints. -/
def Task.perform (files : FileAccess m) : Task → ExceptT Failure m String
  | .migrate input output => do
    pure ((← migrateFile files input output).print output.isSome)
  | .method name => pure (line (MethodInfo.ofName name).describe)
  | .validateCaveat value environment => do
    validateCaveatFile files value environment
    pure (line "valid")

/-- Run the program. -/
def run (files : FileAccess m) (arguments : List String) : m Outcome :=
  match Invocation.ofArguments? arguments with
  | none => pure .misused
  | some (.help topic) => pure (.done topic.text)
  | some (.task task) => do
    match ← (task.perform files).run with
    | .ok printed => pure (.done printed)
    | .error failure => pure (.failed failure)

end WalletCore.CommandLine
