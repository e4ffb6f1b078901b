import EventHooks.Main
import EventHooks.Proofs.Scheduling
import EventHooks.Settings.Credentials
import EventHooks.Proofs.StoredSettings
import EventHooks.Proofs.JsonFuel
import EventHooks.Proofs.CancelledWait
import EventHooks.Proofs.RelayedOutput
import EventHooks.Proofs.LosslessVariables
import EventHooks.Proofs.InfiniteNumbers
import EventHooks.Proofs.DecodedEvents
import EventHooks.Proofs.RunnerAgreement
import EventHooks.Proofs.Precedence
import EventHooks.Proofs.InheritedVariables
import EventHooks.Proofs.OneLineReports
import EventHooks.Proofs.WrittenEvents
import EventHooks.Proofs.LoadedSettings
import EventHooks.Proofs.ItemVariables
import EventHooks.Proofs.VariableNames
import EventHooks.Proofs.FailureText
import EventHooks.Proofs.LosslessLines
import EventHooks.Proofs.LastTexts
import EventHooks.Proofs.SingleCommand
