import WalletCore.State.GrantConversion
import WalletCore.State.MarkerReset
import WalletCore.State.Migrator

/-! # The migrations of the extension
-/
namespace WalletCore.State

/-- The migrations of the extension, by ascending version. -/
def builtinMigrations : List Migration := [MarkerReset.migration, GrantConversion.migration]

/-- The migrator of the extension. -/
def builtinMigrator : Migrator := ⟨builtinMigrations, by decide⟩

end WalletCore.State
