import WalletCore.State.Migration

/-! # Reset of the marker of smart transactions

The migration to version 135 marks the former migration of smart transactions as not applied, so
that it runs again. Every other preference stays.
-/
namespace WalletCore.State.MarkerReset

/-- The controller of the preferences. -/
def controllerName : String := "PreferencesController"

/-- The part of the controller that holds the preferences. -/
def partName : String := "preferences"

/-- The preference that marks the migration of smart transactions as applied. -/
def markerName : String := "smartTransactionsMigrationApplied"

/-- Set the marker in the members of the controller, or find its preferences malformed. -/
def resetIn (controller : List (String × Json)) : Except Finding (List (String × Json)) :=
  match controller.lookup partName with
  | some (.object preferences) =>
    .ok (Entries.put partName (.object (Entries.put markerName (.bool false) preferences))
      controller)
  | other =>
    .error (.invalidState (controllerName ++ "." ++ partName) (Json.kindOrUndefined other))

/-- Set the marker, if there is a controller of the preferences. -/
def transform (controllers : Controllers) : Controllers × List Finding :=
  match controllers.get? controllerName with
  | none => (controllers, [])
  | some (.object controller) =>
    match resetIn controller with
    | .ok changed => (controllers.put controllerName (.object changed), [])
    | .error finding => (controllers, [finding])
  | some other => (controllers, [.invalidState controllerName other.kind])

/-- The migration to version 135. -/
def migration : Migration :=
  .ofFindings 135 "Reset smartTransactionsMigrationApplied" transform

end WalletCore.State.MarkerReset
