import WalletCore.State.Anomaly
import WalletCore.State.Versioned

/-! # Migrations

A migration changes the states of the controllers for one version of the schema. It accepts any
state, reports what it cannot make sense of, and marks the result with its version.
-/
namespace WalletCore.State

/-- A result with the anomalies that were reported on the way, in order. -/
abbrev Reported (α : Type) : Type := α × List Anomaly

/-- A step of the schema. -/
structure Migration where
  /-- The version that the migration leads to. -/
  version : UInt64
  /-- What the migration does, in words. -/
  description : String
  /-- The states of the controllers after the migration. -/
  transform : Controllers → Reported Controllers

namespace Migration

/-- A migration that reports what it finds as anomalies of its own version. -/
def ofFindings (version : UInt64) (description : String)
    (transform : Controllers → Controllers × List Finding) : Migration where
  version := version
  description := description
  transform controllers :=
    let (changed, findings) := transform controllers
    (changed, findings.map (⟨version, ·⟩))

@[simp]
theorem version_ofFindings (version : UInt64) (description : String)
    (transform : Controllers → Controllers × List Finding) :
    (ofFindings version description transform).version = version := rfl

/-- The findings become anomalies, and the controllers stay as they were transformed. -/
@[simp]
theorem transform_ofFindings (version : UInt64) (description : String)
    (transform : Controllers → Controllers × List Finding) (controllers : Controllers) :
    (ofFindings version description transform).transform controllers =
      ((transform controllers).1, (transform controllers).2.map (⟨version, ·⟩)) := rfl

/-- Apply a migration to a state of any version. -/
def migrate (migration : Migration) (state : Versioned) : Reported Versioned :=
  let (controllers, anomalies) := migration.transform state.controllers
  (⟨migration.version, controllers⟩, anomalies)

end Migration

end WalletCore.State
