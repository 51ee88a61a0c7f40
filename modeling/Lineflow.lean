import Lineflow.Main
import Lineflow.Program.Stored
import Lineflow.Script
import Lineflow.Wire.Handler
import Lineflow.Proofs.Compilation
import Lineflow.Proofs.FanOutJoin
import Lineflow.Proofs.FanOutBatch
import Lineflow.Proofs.Driver
import Lineflow.Proofs.SourceMeaning
import Lineflow.Proofs.Correspondence
import Lineflow.Proofs.CallLog
import Lineflow.Proofs.KeyProvenance
import Lineflow.Proofs.StepNames
import Lineflow.Proofs.WireAgreement
import Lineflow.Proofs.ForwardRuns
import Lineflow.Proofs.DryRun
import Lineflow.Proofs.DriverState
import Lineflow.Proofs.ReduceValues
import Lineflow.Proofs.SettingsIndependence
import Lineflow.Proofs.InvocationCounts
import Lineflow.Proofs.HandlerReplies
import Lineflow.Proofs.OverrideConsumption
import Lineflow.Proofs.LineGrammar
import Lineflow.Proofs.JsonText
import Lineflow.Proofs.RecordText
import Lineflow.Proofs.WireWorkers
import Lineflow.Proofs.Redirection
import Lineflow.Proofs.NormalForm
import Lineflow.Proofs.Rereading
import Lineflow.Proofs.NumberRanges
import Lineflow.Proofs.StoredPrograms
import Lineflow.Proofs.Polling
import Lineflow.Proofs.Requirements
import Lineflow.Proofs.ReportRanges
