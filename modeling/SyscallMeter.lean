import SyscallMeter.Access
import SyscallMeter.BuildTool
import SyscallMeter.BuildTool.Shell
import SyscallMeter.CommandLine
import SyscallMeter.Descriptor
import SyscallMeter.Event
import SyscallMeter.Failure
import SyscallMeter.Gateway
import SyscallMeter.Handler
import SyscallMeter.Json.Reader
import SyscallMeter.Json.Writer
import SyscallMeter.Kernel.EventQueue
import SyscallMeter.Kernel.Globals
import SyscallMeter.Kernel.Host
import SyscallMeter.Kernel.Maps
import SyscallMeter.Kernel.Probe
import SyscallMeter.Kernel.Refusals
import SyscallMeter.KeyMap
import SyscallMeter.Label
import SyscallMeter.Lookup
import SyscallMeter.Machine
import SyscallMeter.Machine.Files
import SyscallMeter.Main
import SyscallMeter.Measure
import SyscallMeter.Memory
import SyscallMeter.Metrics
import SyscallMeter.Number.Binary64
import SyscallMeter.Number.Notation
import SyscallMeter.Number.Numeral
import SyscallMeter.Number.Shortest
import SyscallMeter.Octets
import SyscallMeter.Operation
import SyscallMeter.Operation.Table
import SyscallMeter.Options
import SyscallMeter.Outcome
import SyscallMeter.Policy
import SyscallMeter.Preflight
import SyscallMeter.ProbeCounts
import SyscallMeter.ProbeError
import SyscallMeter.Proofs.Blank
import SyscallMeter.Proofs.Codec
import SyscallMeter.Proofs.ExitCode
import SyscallMeter.Proofs.Grouping
import SyscallMeter.Proofs.Handler
import SyscallMeter.Proofs.Ingestion
import SyscallMeter.Proofs.Inquiry
import SyscallMeter.Proofs.Isolation
import SyscallMeter.Proofs.Json.Containers
import SyscallMeter.Proofs.Json.Numbers
import SyscallMeter.Proofs.Json.Scaling
import SyscallMeter.Proofs.Kernel.Balance
import SyscallMeter.Proofs.Kernel.Counts
import SyscallMeter.Proofs.Kernel.Hosted
import SyscallMeter.Proofs.Kernel.Isolation
import SyscallMeter.Proofs.Kernel.Probe
import SyscallMeter.Proofs.Kernel.Session
import SyscallMeter.Proofs.Kernel.Slots
import SyscallMeter.Proofs.Kernel.Waiting
import SyscallMeter.Proofs.Label
import SyscallMeter.Proofs.Lookup
import SyscallMeter.Proofs.Measure.Batch
import SyscallMeter.Proofs.Measure.Descriptors
import SyscallMeter.Proofs.Measure.Layout
import SyscallMeter.Proofs.Measure.Revocation
import SyscallMeter.Proofs.Measure.Vectored
import SyscallMeter.Proofs.Number.Integers
import SyscallMeter.Proofs.Number.Numeral
import SyscallMeter.Proofs.Number.Shortest
import SyscallMeter.Proofs.OperationTable
import SyscallMeter.Proofs.Payload
import SyscallMeter.Proofs.Pipeline
import SyscallMeter.Proofs.Preflight
import SyscallMeter.Proofs.Protocol
import SyscallMeter.Proofs.Report.Duration
import SyscallMeter.Proofs.Report.Members
import SyscallMeter.Proofs.Report.RoundTrip
import SyscallMeter.Proofs.Ring.Block
import SyscallMeter.Proofs.Ring.Delivery
import SyscallMeter.Proofs.Ring.Filling
import SyscallMeter.Proofs.Ring.FreeRun
import SyscallMeter.Proofs.Ring.Invariant
import SyscallMeter.Proofs.Ring.Lap
import SyscallMeter.Proofs.Ring.Layout
import SyscallMeter.Proofs.Ring.Queue
import SyscallMeter.Proofs.Ring.Reclaim
import SyscallMeter.Proofs.Ring.Refinement
import SyscallMeter.Proofs.Ring.Room
import SyscallMeter.Proofs.RingSize
import SyscallMeter.Proofs.Run.Attachment
import SyscallMeter.Proofs.Run.Capture
import SyscallMeter.Proofs.Run.Effects
import SyscallMeter.Proofs.Run.Ending
import SyscallMeter.Proofs.Run.Obstacles
import SyscallMeter.Proofs.Settings
import SyscallMeter.Proofs.Splitting
import SyscallMeter.Proofs.Tally
import SyscallMeter.Proofs.Transports
import SyscallMeter.Proofs.Web.Encoding
import SyscallMeter.Proofs.Web.PathSegments
import SyscallMeter.Report
import SyscallMeter.Report.Reader
import SyscallMeter.Report.Summary
import SyscallMeter.Report.Writer
import SyscallMeter.Ring
import SyscallMeter.Run.Effect
import SyscallMeter.Run.Loading
import SyscallMeter.Run.Measurement
import SyscallMeter.Run.Watch
import SyscallMeter.Run.World
import SyscallMeter.Settings
import SyscallMeter.Tally
import SyscallMeter.Tally.Line
import SyscallMeter.Target
import SyscallMeter.Text.Blank
import SyscallMeter.Text.CharTable
import SyscallMeter.Text.Column
import SyscallMeter.Text.Composition
import SyscallMeter.Text.Composition.Table
import SyscallMeter.Text.Digit
import SyscallMeter.Text.Hidden
import SyscallMeter.Text.Quoted
import SyscallMeter.Text.Search
import SyscallMeter.Totals
import SyscallMeter.Trace
import SyscallMeter.Transport
import SyscallMeter.Web.Address
import SyscallMeter.Web.Base64
import SyscallMeter.Web.Host
import SyscallMeter.Web.HostLabel
import SyscallMeter.Web.HostLabel.Table
import SyscallMeter.Web.HostMapping
import SyscallMeter.Web.HostMapping.Table
import SyscallMeter.Web.Ipv4
import SyscallMeter.Web.Ipv6
import SyscallMeter.Web.Percent
import SyscallMeter.Web.Punycode
import SyscallMeter.Proofs.Memory
import SyscallMeter.Proofs.Metrics
import SyscallMeter.Proofs.Results
import SyscallMeter.Proofs.Web.ByteOrder
import SyscallMeter.Proofs.Grouping.Reading
