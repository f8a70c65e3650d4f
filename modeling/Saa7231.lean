import Saa7231.Interaction.Program
import Saa7231.Interaction.Runs
import Saa7231.Interaction.Simulation
import Saa7231.Interaction.RoundRobin
import Saa7231.Interaction.BoundedFifo
import Saa7231.Interaction.Bus
import Saa7231.Interaction.Locking
import Saa7231.Interaction.Transcript
import Saa7231.Interaction.Moments
import Saa7231.Interaction.Ledger
import Saa7231.Interaction.Detection
import Saa7231.Interaction.Relabel
import Saa7231.Interaction.PackedBits
import Saa7231.Interaction.Interleaving
import Saa7231.Interaction.Commuting
import Saa7231.Interaction.Ownership
import Saa7231.Interaction.Order
import Saa7231.Interaction.Search
import Saa7231.Interaction.Cost
import Saa7231.Interaction.Implement
import Saa7231.Interaction.Threads
import Saa7231.Interaction.ByteStore
import Saa7231.Hardware.Acquisition
import Saa7231.Hardware.AddressMap
import Saa7231.Hardware.Board
import Saa7231.Hardware.Frame
import Saa7231.Hardware.Patch
import Saa7231.Stream.Ring
import Saa7231.Stream.RingFifo
import Saa7231.Stream.RingOverflow
import Saa7231.Stream.Dmabuf
import Saa7231.Stream.PageTable
import Saa7231.Stream.Ts2dtl
import Saa7231.Stream.Ts2dtlEffects
import Saa7231.Stream.Allocation
import Saa7231.Stream.Lifecycle
import Saa7231.Stream.FreshStream
import Saa7231.Stream.InitFaults
import Saa7231.Stream.PageOverflow
import Saa7231.Stream.InitFrame
import Saa7231.Stream.ExitBalance
import Saa7231.Stream.InitFailure
import Saa7231.Stream.InitDetection
import Saa7231.Dvb.Adapter
import Saa7231.Dvb.StartStop
import Saa7231.Dvb.FeedCounting
import Saa7231.Dvb.StartFailure
import Saa7231.Dvb.Evhandler
import Saa7231.Dvb.SlotRotation
import Saa7231.Dvb.StartAddresses
import Saa7231.Dvb.SlotOwnership
import Saa7231.Dvb.EventTurns
import Saa7231.Dvb.Delivery
import Saa7231.Dvb.NullHandler
import Saa7231.Dvb.Device
import Saa7231.Dvb.Independence
import Saa7231.Dvb.StreamMemory
import Saa7231.Dvb.Removal
import Saa7231.Msi.Events
import Saa7231.Msi.Hardware
import Saa7231.Msi.EnableMask
import Saa7231.Msi.Handler
import Saa7231.Msi.EventLoss
import Saa7231.Msi.Dispatch
import Saa7231.Msi.Acknowledge
import Saa7231.Msi.Vectors
import Saa7231.I2c.Controller
import Saa7231.I2c.Traffic
import Saa7231.I2c.Words
import Saa7231.I2c.Wire
import Saa7231.I2c.Ready
import Saa7231.I2c.BusRelease
import Saa7231.I2c.Reset
import Saa7231.I2c.SendGuard
import Saa7231.I2c.ReceivePath
import Saa7231.I2c.OwnBytes
import Saa7231.I2c.StoredBytes
import Saa7231.I2c.Target
import Saa7231.I2c.Prompt
import Saa7231.Cgu.Clocks
import Saa7231.Cgu.Activation
import Saa7231.Cgu.Settled
import Saa7231.Cgu.Runs
import Saa7231.Cgu.Outputs
import Saa7231.Cgu.OutputSafety
import Saa7231.Cgu.PortConflicts
import Saa7231.Cgu.InputRecord
import Saa7231.Cgu.SharedOutput
import Saa7231.Cgu.OutputShadow
import Saa7231.Driver.Kernel
import Saa7231.Driver.Probe
import Saa7231.Driver.Subsystems
import Saa7231.Driver.Failures
import Saa7231.Driver.ResetCheck
import Saa7231.Driver.ProbeOutcome
import Saa7231.Driver.PciMapping
import Saa7231.Driver.ProbeFaults
import Saa7231.Driver.Gains
import Saa7231.Driver.ProbeFailure
import Saa7231.Driver.RemovalBalance
import Saa7231.Driver.Publication
import Saa7231.Driver.Exposure
import Saa7231.Driver.LockDiscipline
import Saa7231.Driver.AdapterWiring
import Saa7231.Driver.BarDump
import Saa7231.Driver.Gpio
import Saa7231.Driver.Bsl
import Saa7231.Lgs8gxx.Init
import Saa7231.Lgs8gxx.Download
import Saa7231.Lgs8gxx.Report
import Saa7231.Lgs8gxx.Tune
import Saa7231.Lgs8gxx.AutoDetect
import Saa7231.Lgs8gxx.TuneTime
import Saa7231.Lgs8gxx.Status
import Saa7231.Lgs8gxx.Readings
import Saa7231.Lgs8gxx.Footprint
import Saa7231.Lgs8gxx.OverBus
import Saa7231.Lgs8gxx.Registers
import Saa7231.Lgs8gxx.RegisterDevice
import Saa7231.Lgs8gxx.Strength
import Saa7231.Lgs8gxx.Format
import Saa7231.Lgs8gxx.GuardInterval
import Saa7231.Driver.Frontend
