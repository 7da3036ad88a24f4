import GenericFss.Library.Machine
import GenericFss.Library.Lifecycle
import GenericFss.Library.Tally
import GenericFss.Library.Mirror
import GenericFss.Library.Bytes
import GenericFss.Library.Lazy
import GenericFss.Library.Provenance
import GenericFss.Library.CString
import GenericFss.Library.Loop
import GenericFss.Library.Chronicle
import GenericFss.Library.Procedure
import GenericFss.Library.Layout
import GenericFss.Library.Transducer
import GenericFss.Proofs.Requests
import GenericFss.Proofs.ResponseFrame
import GenericFss.Proofs.DriverContract
import GenericFss.Proofs.ChipSelect
import GenericFss.Cfs
import GenericFss.Fprime
import GenericFss.Proofs.CfsStep
import GenericFss.Proofs.FprimeStep
import GenericFss.Proofs.DeviceLifecycle
import GenericFss.Script
import GenericFss.Proofs.CfsCounters
import GenericFss.Proofs.CfsRejection
import GenericFss.Proofs.Agreement
import GenericFss.Proofs.FprimeDisabled
import GenericFss.Proofs.FprimeLifecycle
import GenericFss.Proofs.FprimeCounters
import GenericFss.Proofs.FprimeTelemetry
import GenericFss.Proofs.FprimeDownlink
import GenericFss.Proofs.Freshness
import GenericFss.Simulator
import GenericFss.Proofs.DataPointAccess
import GenericFss.Proofs.SimulatorFrame
import GenericFss.Proofs.SimulatorQueue
import GenericFss.Proofs.SimulatorTransfers
import GenericFss.ClosedLoop
import GenericFss.Proofs.EndToEnd
import GenericFss.Proofs.Corruption
import GenericFss.Proofs.WireFormat
import GenericFss.Proofs.FailureReport
import GenericFss.Ground
import GenericFss.Proofs.GroundRetry
import GenericFss.Checkout
import GenericFss.Proofs.CheckoutCommand
import GenericFss.Proofs.CheckoutTokens
import GenericFss.Proofs.CheckoutLanguage
import GenericFss.Proofs.CheckoutRun
import GenericFss.Proofs.CheckoutSession
import GenericFss.Proofs.CfsMain
import GenericFss.Proofs.CfsFailStop
import GenericFss.Proofs.EventLog
import GenericFss.Proofs.FprimeLog
import GenericFss.Proofs.FrameCodec
import GenericFss.Proofs.Chronology
import GenericFss.Proofs.Nominal
import GenericFss.Proofs.CheckoutBench
import GenericFss.Providers
import GenericFss.Proofs.SkyTelemetry
import GenericFss.Procedures
import GenericFss.Proofs.GroundSwitch
import GenericFss.Proofs.GroundTests
import GenericFss.Telemetry
import GenericFss.Proofs.TelemetryFormat
import GenericFss.Uplink
import GenericFss.Proofs.CommandFormat
import GenericFss.Proofs.SystemRefinement
