import WalletCore.CommandLine.Environment
import WalletCore.CommandLine.FileAccess
import WalletCore.Permission.Method
import WalletCore.Permission.Registry
import WalletCore.State.Builtin

/-! # Tasks of the command line

The tasks migrate a file of persisted state, tell how a method is permissioned, and check a file
with an authorization against the environment of a wallet. A task that fails says what it was doing
and why it failed.
-/
namespace WalletCore.CommandLine

/-- What a file holds. -/
inductive Content where
  /-- A persisted state. -/
  | state
  /-- The value of a caveat. -/
  | caveatValue
  /-- The environment of a wallet. -/
  | environment
deriving DecidableEq

/-- The wording of what a file holds. -/
def Content.text : Content → String
  | .state => "state file"
  | .caveatValue => "caveat value"
  | .environment => "environment file"

/-- Why a task fails. -/
inductive Failure where
  /-- A file cannot be read. -/
  | unreadable (content : Content) (path : String) (fault : FileFault)
  /-- A file cannot be written. -/
  | unwritable (content : Content) (path : String) (fault : FileFault)
  /-- A file is not JSON of the right shape. -/
  | undecodable (content : Content) (path : String) (cause : DecodeError)
  /-- A file holds no versioned state. -/
  | stateless (path : String) (cause : DecodeError)
  /-- A caveat is refused. -/
  | refused (cause : Permission.Error)
deriving DecidableEq

/-- A line of the account of a failure. -/
inductive Cause where
  /-- A message. -/
  | message (text : String)
  /-- The fault of a file. -/
  | file (fault : FileFault)
deriving DecidableEq

/-- The wording of a line. -/
def Cause.text : Cause → String
  | .message text => text
  | .file fault => fault.message

/-- The account of a failure, from what was attempted to the last cause. -/
def Failure.causes : Failure → List Cause
  | .unreadable content path fault =>
    [.message ("reading " ++ content.text ++ " " ++ path), .file fault]
  | .unwritable content path fault =>
    [.message ("writing " ++ content.text ++ " " ++ path), .file fault]
  | .undecodable content path cause =>
    [.message ("parsing " ++ content.text ++ " " ++ path), .message cause.message]
  | .stateless path cause =>
    [.message ("parsing " ++ Content.state.text ++ " " ++ path),
      .message (State.Error.serialization cause).message, .message cause.message]
  | .refused cause => [.message cause.message]

variable {m : Type → Type} [Monad m]

/-- An outcome that needs no files. -/
def ofExcept {α : Type} (outcome : Except Failure α) : ExceptT Failure m α :=
  ExceptT.mk (pure outcome)

/-- The text of a file that holds something. -/
def readContent (files : FileAccess m) (content : Content) (path : String) :
    ExceptT Failure m String := do
  ofExcept ((← files.readText path).mapError (.unreadable content path))

/-- Write a text to the file that is to hold something. -/
def writeContent (files : FileAccess m) (content : Content) (path text : String) :
    ExceptT Failure m Unit := do
  ofExcept ((← files.write path text).mapError (.unwritable content path))

/-- The value of a file that holds something. -/
def decodeContent {α : Type} (files : FileAccess m) (content : Content) (decoder : Decoder α)
    (path : String) : ExceptT Failure m α := do
  let text ← readContent files content path
  ofExcept ((decoder.ofText text).mapError (.undecodable content path))

/-- The environment in a file. -/
def loadEnvironment (files : FileAccess m) (path : String) : ExceptT Failure m Environment :=
  decodeContent files .environment Environment.decoder path

/-- What the migration of a file did. -/
structure MigrationReport where
  /-- The version that was read. -/
  fromVersion : UInt64
  /-- The anomalies that were reported. -/
  anomalies : List State.Anomaly
  /-- The state after the migration. -/
  migrated : State.Versioned

/-- Migrate the state in a file, and write the result to another file if one is named. -/
def migrateFile (files : FileAccess m) (input : String) (output : Option String) :
    ExceptT Failure m MigrationReport := do
  let text ← readContent files .state input
  let state ← ofExcept ((State.Versioned.ofText text).mapError (.stateless input))
  let (migrated, anomalies) := State.builtinMigrator.run state
  match output with
  | none => pure ()
  | some path => writeContent files .state path migrated.pretty
  pure ⟨state.version, anomalies, migrated⟩

/-- How a method is permissioned. -/
structure MethodInfo where
  /-- The name of the method. -/
  name : String
  /-- Whether it needs no permission. -/
  unrestricted : Bool
  /-- Whether it also signs for an Ethereum account. -/
  ethereumSigning : Bool
deriving DecidableEq

namespace MethodInfo

/-- How a method is permissioned. -/
def ofName (name : String) : MethodInfo :=
  ⟨name, Permission.Method.isUnrestricted name, Permission.Method.isEthereumSigning name⟩

/-- The text that shows how a method is permissioned. -/
def describe (info : MethodInfo) : String :=
  info.name ++ ": unrestricted=" ++ toString info.unrestricted ++ " eth_signing=" ++
    toString info.ethereumSigning

end MethodInfo

/-- Check the authorization in a file against the environment in another file. -/
def validateCaveatFile (files : FileAccess m) (value environment : String) :
    ExceptT Failure m Unit := do
  let value ← decodeContent files .caveatValue .any value
  let environment ← loadEnvironment files environment
  let specification := Permission.CaveatSpecification.authorizedScopes environment.lookups
  ofExcept ((specification.validate ⟨Permission.scopesCaveat, value⟩).mapError .refused)

end WalletCore.CommandLine
