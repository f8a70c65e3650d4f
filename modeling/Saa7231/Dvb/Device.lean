import Saa7231.Dvb.Adapter
import Saa7231.Dvb.FeedCounting
import Saa7231.Dvb.NullHandler

/-!
# The adapters of a device, from probe to removal

`saa7231_dvb_init` registers one adapter after the other with the DVB core and initialises
the stream of each; `saa7231_dvb_exit` takes all of them down. In between the core starts and
stops feeds, and the event handlers run. All adapters share the board and the event table.
-/

namespace Saa7231

open Interaction Bus

/-- What `saa7231_dvb_init` takes from `struct saa7231_config`: the transport-stream inputs, and
how many adapters are built in (`BUILTIN_ADAPTERS`) and external. -/
structure DvbConfig where
  ts : TsConfig
  builtinAdapters : Nat
  extDvbAdapters : Nat

namespace DvbConfig

variable (config : DvbConfig)

/-- `saa7231->adapters`. -/
def adapters : Nat := config.builtinAdapters + config.extDvbAdapters

/-- The type of adapter `i`. -/
def adapType (i : Nat) : AdapterType :=
  if i < config.builtinAdapters then .internal else .external

/-- The number of adapter `i` among the adapters of its type. -/
def typeNumber (i : Nat) : Nat :=
  if i < config.builtinAdapters then i else i - config.builtinAdapters

/-- The port of the stream of adapter `i`. -/
def port (i : Nat) : Nat := (config.adapType i).tsPort i

/-- The register module of the engine of adapter `i`. -/
def module (i : Nat) : Nat := (config.adapType i).tsModule i

end DvbConfig

/-! ## Probe and removal (`saa7231_dvb.c`) -/

/-- An adapter in the `kzalloc`ed array. -/
def Dvb.zero : Dvb where
  adapter := 0
  vector := 0
  frontend := false
  feeds := 0
  stream := none

/-- The end of an iteration of `saa7231_dvb_init`: the stream of adapter `i` and its event.
`none` is the error that ends the initialisation. -/
def dvbInitStream (config : DvbConfig) (i : Nat) (dvb : Dvb) (events : Events DvbHandler) :
    BoardProgram (Option (Dvb × Events DvbHandler)) := do
  match ← streamInit config.ts .digitalCapture (config.adapType i) i tsPages188 with
  | none => return none
  | some stream =>
      let vector := (config.adapType i).vector (config.typeNumber i)
      let (_ret, events) ← dvbAddIrqevent bug events (config.adapType i) (config.typeNumber i)
      return some ({ dvb with adapter := i, stream := some stream, vector := vector }, events)

/-- The part of an iteration of `saa7231_dvb_exit` that concerns the hardware. -/
def dvbExitAdapter (dvb : Dvb) (events : Events DvbHandler) :
    BoardProgram (Events DvbHandler) := do
  bugOn dvb.stream.isNone
  let (_ret, events) ← removeIrqevent events dvb.vector
  match dvb.stream with
  | none => return events
  | some stream =>
      streamExit stream
      return events

/-- `saa7231_dvb_exit` for an array of adapters with a handle. -/
def dvbExit (array adapters : Nat) (dvb : Nat → Dvb) (events : Events DvbHandler) :
    BoardProgram (Events DvbHandler) := do
  let events ← Program.loop adapters (fun i events => dvbExitAdapter (dvb i) events) events
  release (.kmem array)
  return events

/-! ## Devices -/

/-- A device while its driver is loaded: the adapters and how many are registered, the feeds
that the core holds on each, and whether an initialisation failed or the driver was removed.
After the removal the adapters are what they were at the end. -/
structure Device where
  array : Nat
  dvb : Nat → Dvb
  registered : Nat
  outstanding : Nat → Nat
  events : Events DvbHandler
  board : Board
  failed : Bool
  removed : Bool

/-- What happens to a device, each with what the hardware does meanwhile. -/
inductive DeviceEvent where
  | registerAdapter
  | streamInit (env : Environment)
  | startFeed (i : Nat) (env : Environment)
  | stopFeed (i : Nat) (env : Environment)
  | interrupt (i : Nat) (env : Environment)
  | remove (env : Environment)

/-- A device at the start of `saa7231_dvb_init`, when the array of adapters is allocated. -/
def Device.probing (array : Nat) (events : Events DvbHandler) : Device where
  array := array
  dvb := fun _ => .zero
  registered := 0
  outstanding := fun _ => 0
  events := events
  board := Board.reset.acquire (some (.kmem array))
  failed := false
  removed := false

/-- The device with another state of one adapter and of the board. -/
def Device.withAdapter (device : Device) (i : Nat) (dvb : Dvb) (outstanding : Nat)
    (board : Board) : Device :=
  { device with
    dvb := Function.update device.dvb i dvb
    outstanding := Function.update device.outstanding i outstanding
    board := board }

/-- One event. -/
def Device.step (config : DvbConfig) (device : Device) : DeviceEvent → Device
  | .registerAdapter =>
      { device with
        dvb := Function.update device.dvb device.registered { Dvb.zero with frontend := true }
        registered := device.registered + 1 }
  | .streamInit env =>
      let i := device.registered - 1
      let result := (dvbInitStream config i (device.dvb i) device.events).run (boardWorld env)
        device.board
      match result.1 with
      | none => { device with board := result.2, failed := true }
      | some (dvb, events) =>
          { device.withAdapter i dvb (device.outstanding i) result.2 with events := events }
  | .startFeed i env =>
      let result := (startFeed (device.dvb i)).run (boardWorld env) device.board
      device.withAdapter i result.1.2 (device.outstanding i + 1) result.2
  | .stopFeed i env =>
      let result := (stopFeed (device.dvb i)).run (boardWorld env) device.board
      device.withAdapter i result.1.2 (device.outstanding i - 1) result.2
  | .interrupt i env =>
      let result := (adapterEvhandler (device.dvb i)).run (boardWorld env) device.board
      device.withAdapter i result.1 (device.outstanding i) result.2
  | .remove env =>
      let result := (dvbExit device.array config.adapters device.dvb device.events).run
        (boardWorld env) device.board
      { device with events := result.1, board := result.2, removed := true }

/-- What the core allows. The adapters are registered and initialised in turn; feeds are started
and stopped on registered adapters, and every stop has its start; a driver whose probe succeeded
is removed when no feeds are held. -/
def DeviceEvent.Valid (config : DvbConfig) (device : Device) (event : DeviceEvent) : Prop :=
  device.removed = false ∧ match event with
  | .registerAdapter => device.failed = false ∧ device.registered < config.adapters ∧
      ∀ i < device.registered, (device.dvb i).stream.isSome = true
  | .streamInit _ => device.failed = false ∧ 0 < device.registered ∧
      (device.dvb (device.registered - 1)).stream = none
  | .startFeed i _ => i < device.registered ∧ device.outstanding i < feednum
  | .stopFeed i _ => i < device.registered ∧ 0 < device.outstanding i
  | .interrupt i _ => i < device.registered
  | .remove _ => device.failed = false ∧ device.registered = config.adapters ∧
      ∀ i < config.adapters, (device.dvb i).stream.isSome = true ∧ device.outstanding i = 0

/-- The slots of a stream name page tables of buffers of its ring that are allocated. -/
def Stream.NamesAllocated (stream : Stream) (board : Board) : Prop :=
  ∀ i < 8, ∃ dmabuf ∈ stream.ring.dmabuf,
    board.slot (dmach stream.portId) i = dmabuf.ptPhys ∧ dmabuf.Allocated board

/-- Memory is kept while an engine may write to it: an engine that is enabled has only allocated
buffers in its slots. -/
def Device.KeepsMemory (device : Device) : Prop :=
  ∀ i stream, (device.dvb i).stream = some stream →
    device.board.enabled stream.dtl.module = true → stream.NamesAllocated device.board

/-- The driver is not removed once an engine has run. -/
def DeviceEvent.NeverRan (device : Device) : DeviceEvent → Prop
  | .remove _ => ∀ i stream, (device.dvb i).stream = some stream → stream.dtl.streamRun = false
  | _ => True

end Saa7231
