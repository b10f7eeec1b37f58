import HostProfile.Adapter
import HostProfile.Architecture
import HostProfile.Bytes
import HostProfile.Chain
import HostProfile.Config
import HostProfile.CpuInfo
import HostProfile.Display
import HostProfile.Event
import HostProfile.Host.Darwin
import HostProfile.Host.Direct3D
import HostProfile.Host.ErrorNumber
import HostProfile.Host.Files
import HostProfile.Host.Generic
import HostProfile.Host.Linux
import HostProfile.Host.Parameters
import HostProfile.Host.Processor
import HostProfile.Host.SizedQuery
import HostProfile.Host.Vulkan
import HostProfile.Host.Windows
import HostProfile.Json.Record
import HostProfile.Json.Text
import HostProfile.Json.Value
import HostProfile.Metric.Cache
import HostProfile.Metric.Clock
import HostProfile.Metric.Graphics
import HostProfile.Metric.Identity
import HostProfile.Metric.Machine
import HostProfile.Metric.Processors
import HostProfile.ProbeError
import HostProfile.Probing
import HostProfile.Profiler
import HostProfile.Profiler.Accessor
import HostProfile.Profiler.History
import HostProfile.Query
import HostProfile.Resolved
import HostProfile.Signature
import HostProfile.Summary
import HostProfile.Text.Blank
import HostProfile.Text.Lines
import HostProfile.Text.Numeral
import HostProfile.Text.Utf8
import HostProfile.Topology
import HostProfile.Proofs.Chain.Runner
import HostProfile.Proofs.Metric.Kind
import HostProfile.Proofs.Metric.Mirror
import HostProfile.Proofs.Profiler.Facility
import HostProfile.Proofs.Profiler.Memoization
import HostProfile.Proofs.Profiler.Plausibility
import HostProfile.Proofs.CpuInfo.Rendering
import HostProfile.Proofs.Profiler.HistoryIndependence
import HostProfile.Proofs.Json.Parts
import HostProfile.Proofs.Json.RoundTrip
import HostProfile.Proofs.Metric.Cpuid
import HostProfile.Proofs.Profiler.Identification
import HostProfile.Proofs.Profiler.LogDiscipline
import HostProfile.Proofs.Profiler.Live
import HostProfile.Proofs.Metric.Display
import HostProfile.Proofs.Profiler.DisplaySearch
import HostProfile.Proofs.Profiler.Clocks
import HostProfile.Proofs.CpuInfo.Sockets
import HostProfile.Proofs.Host.Firmware
import HostProfile.Proofs.Metric.FileNumbers
import HostProfile.Proofs.Metric.CacheLevels
import HostProfile.Proofs.CpuInfo.Cores
import HostProfile.Proofs.Profiler.CoreCount
import HostProfile.Proofs.CpuInfo.Runs
import HostProfile.Proofs.Metric.SignatureSources
import HostProfile.Proofs.Profiler.WholeSignature
import HostProfile.Proofs.Text.IntegerPrefix
import HostProfile.Proofs.Text.Unsigned
import HostProfile.Proofs.Text.Numeral
import HostProfile.Proofs.CpuInfo.Integers
import HostProfile.Proofs.Metric.VersionWord
import HostProfile.Proofs.Metric.Units
import HostProfile.Proofs.Host.SizedQuery
import HostProfile.Proofs.Host.ProcessorRecords
import HostProfile.Proofs.Host.Adapters
import HostProfile.Proofs.Host.DriverFailures
import HostProfile.Proofs.Host.Frequency
import HostProfile.Proofs.Host.Parameters
import HostProfile.Proofs.Host.Registry
import HostProfile.Proofs.Bytes
import HostProfile.Proofs.Host.InstalledMemory
import HostProfile.Proofs.Host.DriverVersion
import HostProfile.Proofs.Text.Terminated
import HostProfile.Proofs.Metric.VendorName
import HostProfile.Proofs.Host.DeviceChoice
import HostProfile.Proofs.Text.Encoding
import HostProfile.Proofs.Text.LetterCase
import HostProfile.Proofs.Config.Changes
import HostProfile.Proofs.Config.Origin
