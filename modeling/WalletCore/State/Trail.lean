import WalletCore.State.Migration

/-! # Migrations that leave a trail

A migration of this kind changes nothing but a list of versions, to which it appends its own. A
state that has run through some of them shows which ones, and in which order.
-/
namespace WalletCore.State.Trail

/-- The name under which the versions are listed. -/
def name : String := "trail"

/-- Append a version to the trail, which begins when it is missing. -/
def transform (version : UInt64) (controllers : Controllers) : Controllers × List Finding :=
  let step : Json := .number (.ofUInt64 version)
  match controllers.get? name with
  | none => (controllers.put name (.array [step]), [])
  | some (.array steps) => (controllers.put name (.array (steps ++ [step])), [])
  | some other => (controllers, [.invalidState name other.kind])

/-- The migration that leaves a version on the trail. -/
def migration (version : UInt64) : Migration :=
  .ofFindings version "Append the version to the trail" (transform version)

end WalletCore.State.Trail
