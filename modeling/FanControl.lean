import FanControl.Attribute.Memory
import FanControl.DaemonProgram
import FanControl.Main
import FanControl.Period
import FanControl.Proofs.Accesses
import FanControl.Proofs.Agreement
import FanControl.Proofs.Atomicity
import FanControl.Proofs.CommandText
import FanControl.Proofs.Debounce
import FanControl.Proofs.Decimal
import FanControl.Proofs.Delivery
import FanControl.Proofs.Dial
import FanControl.Proofs.Faithful
import FanControl.Proofs.Framing
import FanControl.Proofs.Frequency
import FanControl.Proofs.HeldLamp
import FanControl.Proofs.LegalWrites
import FanControl.Proofs.Refinement
import FanControl.Proofs.RefusedLines
import FanControl.Proofs.LineReading
import FanControl.Proofs.Admission
import FanControl.Proofs.Directories
import FanControl.Proofs.Frame
import FanControl.Proofs.Ledger
import FanControl.Proofs.Release
import FanControl.Proofs.Lifecycle
import FanControl.Proofs.JsonTokens
import FanControl.Proofs.Utf8
import FanControl.Proofs.Acceptance
import FanControl.Proofs.JsonDocument
import FanControl.Proofs.SettingsDocument
import FanControl.Proofs.Display
import FanControl.Proofs.PanelTruth
import FanControl.Proofs.RecordedLoop
import FanControl.Proofs.RefreshCount
import FanControl.Proofs.Failure
import FanControl.Proofs.Registration
import FanControl.Proofs.AcceptedSettings
import FanControl.Proofs.LeadingInteger
import FanControl.Proofs.LineGrammar
import FanControl.Proofs.LossyDecoding
import FanControl.Proofs.UndecodableLines
import FanControl.Proofs.Verdicts
import FanControl.Proofs.ExactPeriod
import FanControl.Proofs.FrequencySteps
import FanControl.Proofs.AttributeFiles
import FanControl.Proofs.JsonPieces
import FanControl.Proofs.KnownFields
import FanControl.Proofs.PressCount
