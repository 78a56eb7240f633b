import WalletCore.Permission.Error

/-! # Anomalies

A migration reports what it cannot make sense of and leaves it as it was. Only the choice of
migrations and the text of a state can fail.
-/
namespace WalletCore.State

/-- What a migration cannot make sense of. -/
inductive Finding where
  /-- The state of a controller, or a part of it, is of the wrong kind. -/
  | invalidState (path found : String)
  /-- No network is configured for the selected client. -/
  | unknownNetwork (client : String)
  /-- A part of a subject is malformed. -/
  | invalidPart (part origin : String)
  /-- The former permissions of a subject cannot be expressed as an authorization. -/
  | inconvertible (origin : String) (cause : Permission.Error)
  /-- Any other finding, in words. -/
  | described (text : String)
deriving DecidableEq

/-- A finding that a migration reports for a version, as a rule its own. -/
structure Anomaly where
  /-- The version. -/
  version : UInt64
  /-- What was found. -/
  finding : Finding
deriving DecidableEq

/-- Why there is no migrated state. -/
inductive Error where
  /-- Two migrations lead to one version. -/
  | duplicateVersion (version : UInt64)
  /-- A text holds no versioned state. -/
  | serialization (cause : DecodeError)
deriving DecidableEq

/-- The wording of a finding. -/
def Finding.message : Finding → String
  | .invalidState path found => "Invalid " ++ path ++ " state: " ++ found
  | .unknownNetwork client =>
    "No network configuration found for selectedNetworkClientId \"" ++ client ++ "\""
  | .invalidPart part origin => "Invalid " ++ part ++ " for subject \"" ++ origin ++ "\""
  | .inconvertible origin cause =>
    "Cannot convert permissions for subject \"" ++ origin ++ "\": " ++ cause.message
  | .described text => text

/-- The wording of an anomaly. -/
def Anomaly.message (anomaly : Anomaly) : String :=
  "Migration " ++ toString anomaly.version ++ ": " ++ anomaly.finding.message

/-- The wording of an error. -/
def Error.message : Error → String
  | .duplicateVersion version => "Duplicate migration version: " ++ toString version
  | .serialization cause => "Serialization error: " ++ cause.message

end WalletCore.State
