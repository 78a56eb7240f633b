import WalletCore.Authorization.Basic
import WalletCore.Authorization.Edit
import WalletCore.Authorization.Format
import WalletCore.Authorization.Merge
import WalletCore.Binary64
import WalletCore.Chain.Account
import WalletCore.Chain.Id
import WalletCore.Chain.Scope
import WalletCore.CommandLine.Arguments
import WalletCore.CommandLine.Disk
import WalletCore.CommandLine.Environment
import WalletCore.CommandLine.FileAccess
import WalletCore.CommandLine.Help
import WalletCore.CommandLine.Path
import WalletCore.CommandLine.Run
import WalletCore.CommandLine.Task
import WalletCore.Decimal.Shortest
import WalletCore.Json.Basic
import WalletCore.Json.DecodeError
import WalletCore.Json.Decoder
import WalletCore.Json.Number
import WalletCore.Json.Printer
import WalletCore.Json.Reading.Basic
import WalletCore.Json.Reading.Numbers
import WalletCore.Json.Reading.Skipping
import WalletCore.Json.Reading.Strings
import WalletCore.Json.Reading.Values
import WalletCore.Json.Record
import WalletCore.Main
import WalletCore.Members
import WalletCore.Permission.Caveat
import WalletCore.Permission.Error
import WalletCore.Permission.Method
import WalletCore.Permission.Name
import WalletCore.Permission.Registry
import WalletCore.Permission.Validation
import WalletCore.Rpc.Dialogue
import WalletCore.Rpc.Dispatcher
import WalletCore.Rpc.Error
import WalletCore.Rpc.Gate
import WalletCore.Rpc.LockRegistry
import WalletCore.Rpc.LockSet
import WalletCore.Rpc.Message
import WalletCore.Rpc.ScriptedWallet
import WalletCore.State.Anomaly
import WalletCore.State.Builtin
import WalletCore.State.GrantConversion
import WalletCore.State.MarkerReset
import WalletCore.State.Migration
import WalletCore.State.Migrator
import WalletCore.State.Trail
import WalletCore.State.Versioned
import WalletCore.Table
import WalletCore.Text.Hexadecimal
import WalletCore.Text.Quoted
import WalletCore.Text.Shapeless
import WalletCore.Proofs.Authorization.Accounts
import WalletCore.Proofs.Authorization.Build
import WalletCore.Proofs.Authorization.Chains
import WalletCore.Proofs.Authorization.Format
import WalletCore.Proofs.Authorization.Forms
import WalletCore.Proofs.Authorization.MergeLaws
import WalletCore.Proofs.Authorization.Scopes
import WalletCore.Proofs.Authorization.Storage
import WalletCore.Proofs.Authorization.Union
import WalletCore.Proofs.Authorization.Views
import WalletCore.Proofs.Authorization.Widening
import WalletCore.Proofs.Chain.Account
import WalletCore.Proofs.Chain.Grammar
import WalletCore.Proofs.Chain.HexadecimalForm
import WalletCore.Proofs.Chain.Id
import WalletCore.Proofs.Chain.Scope
import WalletCore.Proofs.CommandLine.Disk
import WalletCore.Proofs.CommandLine.FileAccess
import WalletCore.Proofs.CommandLine.Migration
import WalletCore.Proofs.Except
import WalletCore.Proofs.Json.Decoding
import WalletCore.Proofs.Json.Parts
import WalletCore.Proofs.Json.Reading
import WalletCore.Proofs.Json.Records
import WalletCore.Proofs.Json.RoundTrip
import WalletCore.Proofs.Json.Scalars
import WalletCore.Proofs.Json.Storable
import WalletCore.Proofs.Json.WellFormed
import WalletCore.Proofs.Members
import WalletCore.Proofs.Permission.Building
import WalletCore.Proofs.Permission.Changes
import WalletCore.Proofs.Permission.Format
import WalletCore.Proofs.Permission.Merging
import WalletCore.Proofs.Permission.Registration
import WalletCore.Proofs.Permission.RequestReports
import WalletCore.Proofs.Permission.ScopesCaveat
import WalletCore.Proofs.Permission.Validity
import WalletCore.Proofs.Repetition
import WalletCore.Proofs.Rpc.AccountsDialogue
import WalletCore.Proofs.Rpc.Admission
import WalletCore.Proofs.Rpc.Carrying
import WalletCore.Proofs.Rpc.Course
import WalletCore.Proofs.Rpc.DuplicateInertness
import WalletCore.Proofs.Rpc.GrantApproval
import WalletCore.Proofs.Rpc.History
import WalletCore.Proofs.Rpc.LockBookkeeping
import WalletCore.Proofs.Rpc.LockDiscipline
import WalletCore.Proofs.Rpc.LockIndependence
import WalletCore.Proofs.Rpc.LockSafety
import WalletCore.Proofs.Rpc.Normalisation
import WalletCore.Proofs.Rpc.Routing
import WalletCore.Proofs.Rpc.Soundness
import WalletCore.Proofs.Rpc.TextAnswers
import WalletCore.Proofs.Rpc.Waiting
import WalletCore.Proofs.Rpc.Wire
import WalletCore.Proofs.State.ConversionReports
import WalletCore.Proofs.State.ConvertedAddresses
import WalletCore.Proofs.State.Frame
import WalletCore.Proofs.State.GrantConversion
import WalletCore.Proofs.State.Migrator
import WalletCore.Proofs.State.RegistryAcceptance
import WalletCore.Proofs.State.Rerun
import WalletCore.Proofs.State.Storage
import WalletCore.Proofs.State.Upgrades
import WalletCore.Proofs.State.Versioned
import WalletCore.Proofs.Table
