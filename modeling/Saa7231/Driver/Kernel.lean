import Saa7231.Dvb.Device
import Saa7231.I2c.Controller
import Saa7231.Interaction.Ledger
import Saa7231.Interaction.Relabel
import Saa7231.Stream.InitFrame

/-!
# The driver and the kernel

The operations that probe and removal perform beside the register accesses, the stream code and
the interrupt code: what they request from the PCI, I2C and DVB cores and give back, and the
assignments to fields that other threads read. The memory of a `kzalloc` is named by the field
that points to it, a registration by its adapter. `driverTenure` says which operation acquires and
releases which resource.
-/

namespace Saa7231

open Interaction

/-! ## Operations -/

/-- The fields that own `kzalloc`ed memory. -/
inductive Allocation where
  | device
  | msixEntries
  | cgu
  | msixHandler
  | eventHandler
  | i2c
  | dvb
  deriving DecidableEq

inductive Bar where
  | bar0
  | bar2
  deriving DecidableEq

/-- The frontends of a demux: `fe_hw` and `fe_mem`. -/
inductive DmxFrontend where
  | hw
  | mem
  deriving DecidableEq

/-- The attributes of the device in sysfs. -/
inductive DevAttr where
  | gpioCtl
  | bslLoad
  | barDump
  | regWrite
  deriving DecidableEq

/-- The locks that probe initialises. -/
inductive Lock where
  | dev
  | i2c (i : Nat)
  | feed (i : Nat)
  deriving DecidableEq

/-- The fields that callbacks read and probe assigns: `saa7231->event_handler`,
`i2c[i].saa7231`, `dvb[i].saa7231` and `dvb[i].stream`. -/
inductive Field where
  | eventHandler
  | i2cDevice (i : Nat)
  | dvbDevice (i : Nat)
  | dvbStream (i : Nat)
  deriving DecidableEq

/-- The built-in adapters of `struct saa7231_caps`. -/
structure Caps where
  dvbs : Bool
  dvbt : Bool
  deriving DecidableEq

/-- Operations without a result. -/
inductive Command where
  | kfree (memory : Allocation)
  | mutexInit (lock : Lock)
  | assign (field : Field)
  | pciDisableDevice
  | pciSetMaster
  | releaseMemRegion (bar : Bar)
  | iounmap (bar : Bar)
  | freeIrq
  /-- `pci_set_drvdata`, with the device or with `NULL`. -/
  | pciSetDrvdata (device : Bool)
  | memcpyToio (offset : Nat) (image : List (BitVec 8))
  | i2cDelAdapter (i : Nat)
  /-- `config->frontend_enable`, whose result is ignored. -/
  | frontendEnable
  | frontendDetach (i : Nat)
  | dvbUnregisterAdapter (i : Nat)
  | dvbDmxRelease (i : Nat)
  | dvbDmxdevRelease (i : Nat)
  | removeFrontend (i : Nat) (frontend : DmxFrontend)
  | dvbNetRelease (i : Nat)
  | dvbUnregisterFrontend (i : Nat)
  | deviceRemoveFile (attr : DevAttr)
  deriving DecidableEq

/-- Calls with a C result: `0` or a negative error. -/
inductive Call where
  | pciEnableDevice
  | pciSetDmaMask (bits : Nat)
  | pciSetConsistentDmaMask (bits : Nat)
  | requestIrq
  | i2cAddAdapter (i : Nat)
  | dvbRegisterAdapter (i : Nat)
  | dvbDmxInit (i : Nat)
  | dvbDmxdevInit (i : Nat)
  | addFrontend (i : Nat) (frontend : DmxFrontend)
  | connectFrontend (i : Nat)
  | dvbNetInit (i : Nat)
  | dvbRegisterFrontend (i : Nat)
  | deviceCreateFile (attr : DevAttr)
  deriving DecidableEq

/-- Calls whose result is compared with `NULL` or `0` only. -/
inductive Query where
  | kzalloc (memory : Allocation)
  /-- `pci_find_capability(pdev, PCI_CAP_ID_PM)`. -/
  | pciFindPm
  | requestMemRegion (bar : Bar)
  | ioremap (bar : Bar)
  /-- `config->frontend_attach`: whether `dvb->fe` is set after it. -/
  | frontendAttach (i : Nat)
  deriving DecidableEq

/-- Operations of the driver beside register accesses. -/
inductive DriverOp where
  | board (op : BoardOp)
  | msi (op : MsiOp DvbHandler)
  | command (op : Command)
  | call (op : Call)
  | query (op : Query)
  /-- The byte `PCI_CLASS_REVISION` of the configuration space. -/
  | readRevision
  /-- A read of `chip_caps` outside the table. -/
  | beyondChipCaps (revision : BitVec 8)

/-- The answers. A call is answered by `ok` for `0` and by `error code` for `-(code + 1)`. -/
def DriverAns : DriverOp → Type
  | .board op => BoardAns op
  | .msi op => MsiAns DvbHandler op
  | .command _ => Unit
  | .call _ => Except Nat Unit
  | .query _ => Bool
  | .readRevision => BitVec 8
  | .beyondChipCaps _ => Caps

/-- Programs of the driver. -/
abbrev DriverProgram : Type → Type := BusProgram DriverAns

/-- An operation of the driver with its answer. -/
abbrev DriverStep : Type := Exchange (BusOp DriverOp) (BusAns DriverAns)

/-! ## The operations as programs -/

namespace Driver

def command (op : Command) : DriverProgram Unit := Bus.extra (DriverOp.command op)
def call (op : Call) : DriverProgram (Except Nat Unit) := Bus.extra (DriverOp.call op)
def query (op : Query) : DriverProgram Bool := Bus.extra (DriverOp.query op)
def kzalloc (memory : Allocation) : DriverProgram Bool := query (.kzalloc memory)
def kfree (memory : Allocation) : DriverProgram Unit := command (.kfree memory)
def assign (field : Field) : DriverProgram Unit := command (.assign field)
def readRevision : DriverProgram (BitVec 8) := Bus.extra DriverOp.readRevision
def beyondChipCaps (revision : BitVec 8) : DriverProgram Caps :=
  Bus.extra (DriverOp.beyondChipCaps revision)

/-- A program of the stream code. -/
def liftBoard {α : Type} (program : BoardProgram α) : DriverProgram α :=
  Bus.lift DriverOp.board (fun _ reply => reply) program

/-- A program of the interrupt code. -/
def liftMsi {α : Type} (program : MsiProgram DvbHandler α) : DriverProgram α :=
  Bus.lift DriverOp.msi (fun _ reply => reply) program

end Driver

/-! ## Resources -/

/-- What the driver acquires and has to release. -/
inductive DriverResource where
  | board (resource : Resource)
  | memory (memory : Allocation)
  | pciDevice
  | region (bar : Bar)
  | mapping (bar : Bar)
  | irq
  | i2cAdapter (i : Nat)
  | dvbAdapter (i : Nat)
  | dvbDmx (i : Nat)
  | dvbDmxdev (i : Nat)
  | dmxFrontend (i : Nat) (frontend : DmxFrontend)
  | dvbNet (i : Nat)
  /-- The demodulator that is attached to the adapter. -/
  | frontend (i : Nat)
  /-- Its registration with the DVB core. -/
  | dvbFrontend (i : Nat)
  | deviceFile (attr : DevAttr)
  deriving DecidableEq

/-- The resource that a call acquires when it succeeds. -/
def Call.resource : Call → Option DriverResource
  | .pciEnableDevice => some .pciDevice
  | .requestIrq => some .irq
  | .i2cAddAdapter i => some (.i2cAdapter i)
  | .dvbRegisterAdapter i => some (.dvbAdapter i)
  | .dvbDmxInit i => some (.dvbDmx i)
  | .dvbDmxdevInit i => some (.dvbDmxdev i)
  | .addFrontend i frontend => some (.dmxFrontend i frontend)
  | .dvbNetInit i => some (.dvbNet i)
  | .dvbRegisterFrontend i => some (.dvbFrontend i)
  | .deviceCreateFile attr => some (.deviceFile attr)
  | .pciSetDmaMask _ | .pciSetConsistentDmaMask _ | .connectFrontend _ => none

/-- The resource that a query acquires when its result is not `NULL`. -/
def Query.resource : Query → Option DriverResource
  | .kzalloc memory => some (.memory memory)
  | .requestMemRegion bar => some (.region bar)
  | .ioremap bar => some (.mapping bar)
  | .frontendAttach i => some (.frontend i)
  | .pciFindPm => none

/-- The resource that a command releases. -/
def Command.resource : Command → Option DriverResource
  | .kfree memory => some (.memory memory)
  | .pciDisableDevice => some .pciDevice
  | .releaseMemRegion bar => some (.region bar)
  | .iounmap bar => some (.mapping bar)
  | .freeIrq => some .irq
  | .i2cDelAdapter i => some (.i2cAdapter i)
  | .frontendDetach i => some (.frontend i)
  | .dvbUnregisterAdapter i => some (.dvbAdapter i)
  | .dvbDmxRelease i => some (.dvbDmx i)
  | .dvbDmxdevRelease i => some (.dvbDmxdev i)
  | .removeFrontend i frontend => some (.dmxFrontend i frontend)
  | .dvbNetRelease i => some (.dvbNet i)
  | .dvbUnregisterFrontend i => some (.dvbFrontend i)
  | .deviceRemoveFile attr => some (.deviceFile attr)
  | .mutexInit _ | .assign _ | .pciSetMaster | .pciSetDrvdata _ | .memcpyToio _ _
  | .frontendEnable => none

/-- The resource that the stream code acquires with an answer; here the mapping of a scatterlist
counts as one. -/
def boardGranted (op : BoardOp) (answer : BoardAns op) : Option Resource :=
  match op, answer with
  | .dmaMapSg list _, (.ok (_ :: _) : Except Nat (List (BitVec 64 × Nat))) => some (.sg list)
  | op, answer => boardTenure.granted (.extra op) answer

/-- What the operations of the driver acquire and release. -/
def driverTenure : Tenure (BusOp DriverOp) (BusAns DriverAns) DriverResource where
  granted op answer := match op, answer with
    | .extra (.board op), answer => (boardGranted op answer).map .board
    | .extra (.call op), (.ok () : Except Nat Unit) => op.resource
    | .extra (.query op), (true : Bool) => op.resource
    | _, _ => none
  released op := match op with
    | .extra (.board op) => (boardTenure.released (.extra op)).map .board
    | .extra (.command op) => op.resource
    | _ => none

/-! ## An environment of the driver -/

/-- The choices of the hardware and the kernel. A call or a query of the same object is always
answered in the same way. -/
structure DriverEnvironment where
  board : Environment
  call : Call → Except Nat Unit
  query : Query → Bool
  revision : BitVec 8
  beyond : Caps

/-- An environment that grants every request, with cleared registers. -/
def DriverEnvironment.plain : DriverEnvironment where
  board := { Environment.plain with reading := fun _ _ => 0 }
  call := fun _ => .ok ()
  query := fun _ => true
  revision := 0x30
  beyond := ⟨false, false⟩

/-- The answers and effects of the operations in an environment. -/
def driverWorld (env : DriverEnvironment) : World (BusOp DriverOp) (BusAns DriverAns) Board where
  answer op board := match op with
    | .rd address => (boardWorld env.board).answer (.rd address) board
    | .wr _ _ | .delay _ => ()
    | .extra op => match op with
      | .board op => (boardWorld env.board).answer (.extra op) board
      | .msi .kzalloc => true
      | .msi .bug | .msi (.callHandler _ _) | .command _ => ()
      | .call op => env.call op
      | .query op => env.query op
      | .readRevision => env.revision
      | .beyondChipCaps _ => env.beyond
  after op board := match op with
    | .rd address => (boardWorld env.board).after (.rd address) board
    | .wr value address => (boardWorld env.board).after (.wr value address) board
    | .delay milliseconds => (boardWorld env.board).after (.delay milliseconds) board
    | .extra (.board op) => (boardWorld env.board).after (.extra op) board
    | .extra _ => board

end Saa7231
