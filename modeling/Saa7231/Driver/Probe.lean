import Saa7231.Cgu.Clocks
import Saa7231.Driver.Kernel

/-!
# Probe and removal (`saa7231_drv.c`, `saa7231_pci.c`, `saa7231_i2c.c`, `saa7231_dvb.c`)

`pciProbe` brings a device up: memory, the PCI device with its two BARs and its interrupt line,
clocks, interrupt controller, I2C masters, the embedded processor, the DMA channels, and an adapter
with its stream for every transport-stream input. `pciRemove` takes it down. The labels of the error
paths are programs of their own, `pciFail0` to `pciFail5`, `dvbErr0` to `dvbErr4` and `probeFail1`
to `probeFail5`, which fall through to the next.
-/

namespace Saa7231

open Interaction Bus

def enodev : Int := 19

def modeInta : BitVec 8 := 0
def modeMsi : BitVec 8 := 1
def modeMsiX : BitVec 8 := 2

def Mod.ifRegs : Nat := 0x00140000
def ifRegPciGlobalConfig : Nat := 0x0038
def ifRegSpare : Nat := 0x0054
def selChanDma (ch : Nat) : Nat := 0x0200 + ch * 4

def saa7231I2cAdapters : Nat := 4

/-- What probe takes from `struct saa7231_config` and from the module parameters: `intType` and
whether the log level makes `saa7231_cgu_init` read the PLL status. The pointers
`frontend_enable` and `frontend_attach` may be `NULL`. -/
structure DriverConfig where
  intType : BitVec 32
  verbose : Bool
  ts : TsConfig
  i2cRate : I2cRate
  rootClk : CguRootclk
  extDvbAdapters : Nat
  frontendEnable : Bool
  frontendAttach : Bool
  bslImage : List (BitVec 8)

/-- A configuration without external adapters. -/
def DriverConfig.plain : DriverConfig where
  intType := 0
  verbose := false
  ts := ⟨0, 0, 0, 0⟩
  i2cRate := .rate400
  rootClk := .clkRoot27MHz
  extDvbAdapters := 0
  frontendEnable := true
  frontendAttach := true
  bslImage := []

/-- `struct saa7231_dev`. A pointer to a mapping or to a frontend is whether it is set. -/
structure Dev where
  intType : BitVec 8
  version : BitVec 8
  mmio1 : Bool
  mmio2 : Bool
  caps : Caps
  adapters : BitVec 8
  cgu : Cgu
  events : Events DvbHandler
  fe : Nat → Bool
  dvb : Nat → Dvb

/-- The device in `kzalloc`ed memory. -/
def Dev.zero : Dev where
  intType := 0
  version := 0
  mmio1 := false
  mmio2 := false
  caps := ⟨false, false⟩
  adapters := 0
  cgu := .zero
  events := ⟨fun _ => ⟨0, none⟩, 0⟩
  fe := fun _ => false
  dvb := fun _ => .zero

/-- `chip_caps`. -/
def chipCaps : List Caps :=
  [⟨true, true⟩, ⟨true, true⟩, ⟨false, true⟩, ⟨true, false⟩, ⟨false, true⟩, ⟨true, false⟩,
    ⟨false, false⟩, ⟨false, true⟩, ⟨false, false⟩, ⟨false, false⟩, ⟨true, false⟩, ⟨false, true⟩]

/-- `SAA7231_CAPS(revision)`, if the index `(revision >> 4) - 1` is in the table. -/
def saa7231Caps (revision : BitVec 8) : Option Caps :=
  if revision.toNat / 16 = 0 then none else chipCaps[revision.toNat / 16 - 1]?

/-- The transport-stream inputs and the adapters of `saa7231_dvb_init`. -/
def DriverConfig.dvb (config : DriverConfig) (caps : Caps) : DvbConfig where
  ts := config.ts
  builtinAdapters := caps.dvbs.toNat + caps.dvbt.toNat
  extDvbAdapters := config.extDvbAdapters

/-- `saa7231->adapters`, a `u8`. -/
def DriverConfig.adapters (config : DriverConfig) (caps : Caps) : BitVec 8 :=
  BitVec.ofNat 8 (config.dvb caps).adapters

namespace Driver

def bug : DriverProgram Unit := liftBoard Saa7231.bug
def mutexLock (lock : Mutex) : DriverProgram Unit := liftBoard (Saa7231.mutexLock lock)
def mutexUnlock (lock : Mutex) : DriverProgram Unit := liftBoard (Saa7231.mutexUnlock lock)

/-! ## PCI -/

def pciFail0 : DriverProgram Unit := command (.pciSetDrvdata false)

def pciFail1 : DriverProgram Unit := do
  command .pciDisableDevice
  pciFail0

def pciFail2 : DriverProgram Unit := do
  command (.releaseMemRegion .bar0)
  pciFail1

def pciFail3 (mmio1 : Bool) : DriverProgram Unit := do
  if mmio1 then
    command (.iounmap .bar0)
  pciFail2

def pciFail4 (mmio1 : Bool) : DriverProgram Unit := do
  command (.releaseMemRegion .bar2)
  pciFail3 mmio1

def pciFail5 (mmio1 mmio2 : Bool) : DriverProgram Unit := do
  if mmio2 then
    command (.iounmap .bar2)
  pciFail4 mmio1

/-- The DMA masks: 64 bits, or 32 where these are not supported. -/
def setDmaMasks : DriverProgram (Except Nat Unit) := do
  match ← call (.pciSetDmaMask 64) with
  | .ok () => call (.pciSetConsistentDmaMask 64)
  | .error _ => call (.pciSetConsistentDmaMask 32)

/-- `saa7231->caps`. -/
def readCaps : DriverProgram Caps := do
  let revision ← readRevision
  match saa7231Caps revision with
  | some caps => return caps
  | none => beyondChipCaps revision

/-- The part of `saa7231_pci_init` before the interrupt: the PCI device, its BARs, and the table
of the MSI-X entries. -/
def pciMap (dev : Dev) : DriverProgram (Except Int Dev) := do
  command (.mutexInit .dev)
  match ← call .pciEnableDevice with
  | .error _ =>
      pciFail0
      return .error (-enodev)
  | .ok () =>
  match ← setDmaMasks with
  | .error _ =>
      pciFail1
      return .error (-enodev)
  | .ok () =>
  command .pciSetMaster
  if !(← query .pciFindPm) then
    pciFail1
    return .error (-enodev)
  if !(← query (.requestMemRegion .bar0)) then
    pciFail1
    return .error (-enodev)
  let mmio1 ← query (.ioremap .bar0)
  if !mmio1 then
    pciFail2
    return .error (-enodev)
  if !(← query (.requestMemRegion .bar2)) then
    pciFail3 mmio1
    return .error (-enodev)
  let mmio2 ← query (.ioremap .bar2)
  -- After the second mapping the source tests the first one again.
  if !mmio1 then
    pciFail4 mmio1
    return .error (-enodev)
  let caps ← readCaps
  if !(← kzalloc .msixEntries) then
    pciFail5 mmio1 mmio2
    return .error (-enomem)
  return .ok { dev with mmio1 := mmio1, mmio2 := mmio2, caps := caps }

/-- `saa7231_enable_msi` and `saa7231_enable_msix`. -/
def enableMsi : Int := -enodev

/-- `saa7231_request_irq`, with the interrupt type that it leaves. -/
def requestIrq (intType : BitVec 8) : DriverProgram (Int × BitVec 8) := do
  let ret := if intType = modeMsi ∨ intType = modeMsiX then enableMsi else 0
  let intType := if ret ≠ 0 then modeInta else intType
  -- The branches of `MODE_MSI` and `MODE_MSI_X` are not reached any more.
  if intType = modeInta then
    match ← call .requestIrq with
    | .error _ => return (-enodev, intType)
    | .ok () => return (0, intType)
  else
    return (ret, intType)

/-- `saa7231_get_version`. The bus type is only logged. -/
def getVersion : DriverProgram (BitVec 8) := do
  let _config ← rd (Mod.ifRegs + ifRegPciGlobalConfig)
  let reg ← rd (Mod.ifRegs + ifRegSpare)
  return if reg &&& 0x20070926 ≠ 0 then 0 else 1

/-- The end of `saa7231_pci_init`, from the request of the interrupt on. -/
def pciInterrupt (dev : Dev) : DriverProgram (Int × Dev) := do
  let (err, intType) ← requestIrq dev.intType
  if err < 0 then
    pciFail5 dev.mmio1 dev.mmio2
    return (-enodev, { dev with intType := intType })
  command (.pciSetDrvdata true)
  let version ← getVersion
  return (0, { dev with intType := intType, version := version })

/-- `saa7231_pci_init`. -/
def pciInit (dev : Dev) : DriverProgram (Int × Dev) := do
  match ← pciMap dev with
  | .error ret => return (ret, dev)
  | .ok dev => pciInterrupt dev

/-- `saa7231_pci_exit`. -/
def pciExit (dev : Dev) : DriverProgram Unit := do
  command .freeIrq
  if dev.mmio2 then
    command (.iounmap .bar2)
    command (.releaseMemRegion .bar2)
  if dev.mmio1 then
    command (.iounmap .bar0)
    command (.releaseMemRegion .bar0)
  command .pciDisableDevice
  command (.pciSetDrvdata false)

/-! ## Clocks and interrupts -/

/-- `saa7231_cgu_init`. -/
def cguInit (config : DriverConfig) (dev : Dev) : DriverProgram (Int × Dev) := do
  if !(← kzalloc .cgu) then
    return (-enomem, dev)
  let cgu ← cguProgram bug config.verbose config.rootClk
  return (0, { dev with cgu := cgu })

/-- `saa7231_cgu_exit`. -/
def cguExit : DriverProgram Unit := kfree .cgu

/-- The registers that `saa7231_msi_init` programs once its tables are allocated. -/
@[irreducible] def msiReset (events : Events DvbHandler) :
    MsiProgram DvbHandler (Int × Events DvbHandler) := do
  let events := { events with eventHandler := fun _ => ⟨0, none⟩ }
  wr 0x01 (Mod.msi + msiSwRst)
  Bus.delay 20
  let _id ← rd (Mod.msi + msiModuleId)
  wr 0x00 (Mod.msi + msiDelayTimer)
  wr defaultSaa7231IntaPolarity (Mod.msi + msiIntaPolarity)
  Program.loop saa7231MsiRegs (fun i _ => wr 0x01000000 (Mod.msi + msiConfig i)) ()
  Program.loop saa7231MsiLoops (fun i _ => msiClear i) ()
  Bus.delay 5
  if ← msiCheckReset 0 saa7231MsiLoops then
    return (0, { events with handlers := 0 })
  else
    return (-1, events)

/-- `msiReset` is the end of `Saa7231.msiInit`. -/
theorem msi_init_eq (events : Events DvbHandler) :
    Saa7231.msiInit events = (do
      if !(← MsiProgram.kzalloc) then
        return (-enomem, events)
      if !(← MsiProgram.kzalloc) then
        return (-enomem, events)
      msiReset events) := by
  unfold msiReset
  rfl

/-- `saa7231_msi_init`, with the two tables by name. -/
def msiInit (dev : Dev) : DriverProgram (Int × Dev) := do
  if !(← kzalloc .msixHandler) then
    return (-enomem, dev)
  if !(← kzalloc .eventHandler) then
    return (-enomem, dev)
  assign .eventHandler
  let (ret, events) ← liftMsi (msiReset dev.events)
  return (ret, { dev with events := events })

/-- `saa7231_msi_exit`. -/
def msiExit : DriverProgram Unit := do
  kfree .msixHandler
  kfree .eventHandler

/-! ## I2C masters -/

/-- Master `i` as `saa7231_i2c_init` sets it up. -/
def i2cMaster (config : DriverConfig) (i : Nat) : I2c where
  i2cDev := (BitVec.ofNat 2 i).toFin
  i2cRate := config.i2cRate
  rootClk := config.rootClk

/-- One iteration of `saa7231_i2c_init`. -/
def i2cAdd (config : DriverConfig) (i : Nat) : DriverProgram Int := do
  command (.mutexInit (.i2c i))
  match ← call (.i2cAddAdapter i) with
  | .error code => return Int.negSucc code
  | .ok () =>
      assign (.i2cDevice i)
      let _ret ← i2cHwinit (i2cMaster config i)
      return 0

/-- The loop of `saa7231_i2c_init` from master `i` on. -/
def i2cAddAll (config : DriverConfig) : Nat → Nat → DriverProgram Int
  | _, 0 => pure 0
  | i, n + 1 => do
      let err ← i2cAdd config i
      if err < 0 then
        return err
      i2cAddAll config (i + 1) n

/-- `saa7231_i2c_init`. -/
def i2cInit (config : DriverConfig) : DriverProgram Int := do
  mutexLock .devLock
  if !(← kzalloc .i2c) then
    mutexUnlock .devLock
    return -enomem
  let err ← i2cAddAll config 0 saa7231I2cAdapters
  mutexUnlock .devLock
  return err

/-- `saa7231_i2c_exit`. -/
def i2cExit : DriverProgram Unit := do
  mutexLock .devLock
  Program.loop saa7231I2cAdapters (fun i _ => command (.i2cDelAdapter i)) ()
  kfree .i2c
  mutexUnlock .devLock

/-! ## The embedded processor and the DMA channels -/

/-- `saa7231_bsl_autoload`. -/
def bslAutoload (config : DriverConfig) : DriverProgram Int := do
  let magic ← rd 0x4000
  if magic = 0x52415453 then
    return 0
  command (.memcpyToio 0x4000 (config.bslImage.take 13))
  Bus.delay 20
  command (.memcpyToio (0x4000 + 13) (config.bslImage.drop 13))
  Bus.delay 1000
  let magic ← rd 0x4000
  return if magic = 0x52415453 then 0 else -eio

/-- `saa7231_if_init`. -/
def ifInit : DriverProgram Int := do
  Program.loop streamPortTsoifPc
    (fun i _ => wr (BitVec.ofNat 32 i) (Mod.ifRegs + selChanDma i)) ()
  return 0

/-! ## DVB adapters -/

def dvbErr0 (i : Nat) : DriverProgram Unit := command (.dvbUnregisterAdapter i)

def dvbErr1 (i : Nat) : DriverProgram Unit := do
  command (.dvbDmxRelease i)
  dvbErr0 i

def dvbErr2 (i : Nat) : DriverProgram Unit := do
  command (.dvbDmxdevRelease i)
  dvbErr1 i

def dvbErr3 (i : Nat) : DriverProgram Unit := do
  command (.removeFrontend i .hw)
  dvbErr2 i

def dvbErr4 (i : Nat) : DriverProgram Unit := do
  command (.removeFrontend i .mem)
  dvbErr3 i

/-- The demux of adapter `i`: the part of an iteration of `saa7231_dvb_init` up to the network
interface, whose errors are only logged. -/
def dvbRegisterDemux (i : Nat) : DriverProgram Int := do
  match ← call (.dvbRegisterAdapter i) with
  | .error _ => return -enodev
  | .ok () =>
  match ← call (.dvbDmxInit i) with
  | .error code =>
      dvbErr0 i
      return Int.negSucc code
  | .ok () =>
  match ← call (.dvbDmxdevInit i) with
  | .error code =>
      dvbErr1 i
      return Int.negSucc code
  | .ok () =>
  match ← call (.addFrontend i .hw) with
  | .error code =>
      dvbErr2 i
      return Int.negSucc code
  | .ok () =>
  match ← call (.addFrontend i .mem) with
  | .error code =>
      dvbErr3 i
      return Int.negSucc code
  | .ok () =>
  match ← call (.connectFrontend i) with
  | .error code =>
      dvbErr4 i
      return Int.negSucc code
  | .ok () =>
  let _ret ← call (.dvbNetInit i)
  return 0

/-- The frontend of adapter `i`: the error, and whether `dvb->fe` is set. Without a frontend the
initialisation goes on. -/
def dvbRegisterFe (config : DriverConfig) (i : Nat) : DriverProgram (Int × Bool) := do
  if !config.frontendAttach then
    return (0, false)
  if !(← query (.frontendAttach i)) then
    return (0, false)
  match ← call (.dvbRegisterFrontend i) with
  | .error code =>
      dvbErr4 i
      return (Int.negSucc code, true)
  | .ok () => return (0, true)

/-- The stream of adapter `i` and its event. -/
def dvbRegisterStream (config : DriverConfig) (i : Nat) (dev : Dev) :
    DriverProgram (Int × Dev) := do
  let dvbConfig := config.dvb dev.caps
  match ← liftBoard (streamInit config.ts .digitalCapture (dvbConfig.adapType i) i tsPages188) with
  | none => return (-enomem, dev)
  | some stream =>
      assign (.dvbStream i)
      command (.mutexInit (.feed i))
      let (_ret, events) ← dvbAddIrqevent bug dev.events (dvbConfig.adapType i)
        (dvbConfig.typeNumber i)
      let dvb := { dev.dvb i with
        adapter := i
        stream := some stream
        vector := (dvbConfig.adapType i).vector (dvbConfig.typeNumber i) }
      return (0, { dev with events := events, dvb := Function.update dev.dvb i dvb })

/-- One iteration of `saa7231_dvb_init`. -/
def dvbRegister (config : DriverConfig) (i : Nat) (dev : Dev) : DriverProgram (Int × Dev) := do
  let ret ← dvbRegisterDemux i
  if ret < 0 then
    return (ret, dev)
  assign (.dvbDevice i)
  let (ret, fe) ← dvbRegisterFe config i
  let dev := { dev with
    fe := Function.update dev.fe i fe
    dvb := Function.update dev.dvb i { Dvb.zero with frontend := true } }
  if ret < 0 then
    return (ret, dev)
  dvbRegisterStream config i dev

/-- The loop of `saa7231_dvb_init` from adapter `i` on. -/
def dvbRegisterAll (config : DriverConfig) : Nat → Nat → Dev → DriverProgram (Int × Dev)
  | _, 0, dev => pure (0, dev)
  | i, n + 1, dev => do
      let (ret, dev) ← dvbRegister config i dev
      if ret < 0 then
        return (ret, dev)
      dvbRegisterAll config (i + 1) n dev

/-- `saa7231_dvb_init`. -/
def dvbInit (config : DriverConfig) (dev : Dev) : DriverProgram (Int × Dev) := do
  let dev := { dev with adapters := config.adapters dev.caps }
  if !(← kzalloc .dvb) then
    return (-enomem, dev)
  if config.frontendEnable then
    command .frontendEnable
  dvbRegisterAll config 0 dev.adapters.toNat dev

/-- One iteration of `saa7231_dvb_exit`. -/
def dvbUnregister (dev : Dev) (i : Nat) (events : Events DvbHandler) :
    DriverProgram (Events DvbHandler) := do
  let events ← liftBoard (dvbExitAdapter (dev.dvb i) events)
  if dev.fe i then
    command (.dvbUnregisterFrontend i)
    command (.frontendDetach i)
  command (.dvbNetRelease i)
  command (.removeFrontend i .mem)
  command (.removeFrontend i .hw)
  command (.dvbDmxdevRelease i)
  command (.dvbDmxRelease i)
  command (.dvbUnregisterAdapter i)
  return events

/-- `saa7231_dvb_exit`. -/
def dvbExit (dev : Dev) : DriverProgram Dev := do
  let events ← Program.loop dev.adapters.toNat (dvbUnregister dev) dev.events
  kfree .dvb
  return { dev with events := events }

/-! ## Probe and removal -/

/-- The attributes in sysfs: the first failure stops, and is only logged. -/
def createFiles : List DevAttr → DriverProgram Unit
  | [] => pure ()
  | attr :: rest => do
      match ← call (.deviceCreateFile attr) with
      | .error _ => return ()
      | .ok () => createFiles rest

def devAttrs : List DevAttr := [.gpioCtl, .bslLoad, .barDump, .regWrite]

def probeFail1 : DriverProgram Unit := kfree .device

def probeFail2 (dev : Dev) : DriverProgram Unit := do
  pciExit dev
  probeFail1

def probeFail3 (dev : Dev) : DriverProgram Unit := do
  cguExit
  probeFail2 dev

def probeFail4 (dev : Dev) : DriverProgram Unit := do
  msiExit
  probeFail3 dev

def probeFail5 (dev : Dev) : DriverProgram Unit := do
  i2cExit
  probeFail4 dev

/-- The end of `saa7231_pci_probe`, once the interrupt controller is initialised. -/
def probeInputs (config : DriverConfig) (dev : Dev) : DriverProgram (Int × Dev) := do
  let err ← i2cInit config
  if err ≠ 0 then
    probeFail4 dev
    return (err, dev)
  let _loaded ← bslAutoload config
  let err ← ifInit
  if err ≠ 0 then
    probeFail4 dev
    return (err, dev)
  let (err, dev) ← dvbInit config dev
  if err ≠ 0 then
    probeFail5 dev
    return (err, dev)
  createFiles devAttrs
  return (0, dev)

/-- `saa7231_pci_probe` from the clocks on, once the PCI device is initialised. -/
def probeUnits (config : DriverConfig) (dev : Dev) : DriverProgram (Int × Dev) := do
  let (err, dev) ← cguInit config dev
  if err ≠ 0 then
    probeFail2 dev
    return (err, dev)
  let (err, dev) ← msiInit dev
  if err ≠ 0 then
    probeFail3 dev
    return (err, dev)
  probeInputs config dev

/-- `saa7231_pci_probe`. -/
def pciProbe (config : DriverConfig) : DriverProgram (Int × Dev) := do
  if !(← kzalloc .device) then
    return (-enomem, .zero)
  let (err, dev) ← pciInit { Dev.zero with intType := config.intType.truncate 8 }
  if err ≠ 0 then
    probeFail1
    return (err, dev)
  probeUnits config dev

/-- `saa7231_pci_remove`. -/
def pciRemove (dev : Dev) : DriverProgram Unit := do
  let dev ← dvbExit dev
  i2cExit
  msiExit
  cguExit
  devAttrs.forM fun attr => command (.deviceRemoveFile attr)
  pciExit dev
  kfree .device

end Driver

end Saa7231
