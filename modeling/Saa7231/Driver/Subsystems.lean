import Saa7231.Driver.Probe
import Saa7231.I2c.Accesses
import Saa7231.Stream.InitFaults

/-!
# Which subsystem an operation belongs to

An operation of the driver requests something of a subsystem, releases it, or updates the state of
the subsystem. `Within P` says of an operation that `P` allows its role, and there is one lemma for
every function of the driver about the roles it needs. What one subsystem acquires, releases or
assigns is left alone by the others.
-/

namespace Saa7231

open Interaction Bus

/-! ## Roles -/

/-- The parts of the driver, with the number of the I2C master or of the adapter. -/
inductive Subsystem where
  | pci
  | msix
  | irq
  | clocks
  | interrupts
  | i2c
  | master (i : Nat)
  | processor
  | dvb
  | adapter (i : Nat)
  | files
  deriving DecidableEq

/-- What an operation does to a subsystem. -/
inductive Role where
  | request (subsystem : Subsystem)
  | release (subsystem : Subsystem)
  | update (subsystem : Subsystem)
  /-- A `BUG_ON`, a mapping for the device, or a store behind a page table. -/
  | hazard
  deriving DecidableEq

@[simp] def Allocation.subsystem : Allocation → Subsystem
  | .device => .pci
  | .msixEntries => .msix
  | .cgu => .clocks
  | .msixHandler | .eventHandler => .interrupts
  | .i2c => .i2c
  | .dvb => .dvb

@[simp] def Lock.subsystem : Lock → Subsystem
  | .dev => .pci
  | .i2c i => .master i
  | .feed i => .adapter i

@[simp] def Field.subsystem : Field → Subsystem
  | .eventHandler => .interrupts
  | .i2cDevice i => .master i
  | .dvbDevice i | .dvbStream i => .adapter i

@[simp] def Command.role : Command → Role
  | .kfree memory => .release memory.subsystem
  | .mutexInit lock => .update lock.subsystem
  | .assign field => .update field.subsystem
  | .pciDisableDevice | .releaseMemRegion _ | .iounmap _ => .release .pci
  | .freeIrq => .release .irq
  | .pciSetMaster | .pciSetDrvdata _ => .update .pci
  | .memcpyToio _ _ => .update .processor
  | .i2cDelAdapter i => .release (.master i)
  | .frontendEnable => .update .dvb
  | .frontendDetach i | .dvbUnregisterAdapter i | .dvbDmxRelease i | .dvbDmxdevRelease i
  | .removeFrontend i _ | .dvbNetRelease i | .dvbUnregisterFrontend i => .release (.adapter i)
  | .deviceRemoveFile _ => .release .files

@[simp] def Call.role : Call → Role
  | .pciEnableDevice | .pciSetDmaMask _ | .pciSetConsistentDmaMask _ => .request .pci
  | .requestIrq => .request .irq
  | .i2cAddAdapter i => .request (.master i)
  | .dvbRegisterAdapter i | .dvbDmxInit i | .dvbDmxdevInit i | .addFrontend i _
  | .connectFrontend i | .dvbNetInit i | .dvbRegisterFrontend i => .request (.adapter i)
  | .deviceCreateFile _ => .request .files

@[simp] def Query.role : Query → Role
  | .kzalloc memory => .request memory.subsystem
  | .pciFindPm | .requestMemRegion _ | .ioremap _ => .request .pci
  | .frontendAttach i => .request (.adapter i)

/-- The other operations of the stream and interrupt code have no role here. -/
def DriverOp.role : DriverOp → Option Role
  | .board op => if op.harmless then none else some .hazard
  | .msi .bug => some .hazard
  | .msi _ => none
  | .command op => some op.role
  | .call op => some op.role
  | .query op => some op.role
  | .readRevision | .beyondChipCaps _ => some (.request .pci)

/-- The operation has an allowed role or none. -/
def Within (P : Role → Prop) : BusOp DriverOp → Prop :=
  WritesIn (fun _ => True) fun op => ∀ role, op.role = some role → P role

/-- A weaker predicate on the roles allows more operations. -/
theorem Within.mono {P P' : Role → Prop} {op : BusOp DriverOp} (h : Within P op)
    (hP : ∀ role, P role → P' role) : Within P' op :=
  WritesIn.mono h (fun _ _ => trivial) fun _ hop role hrole => hP role (hop role hrole)

variable {P : Role → Prop}

/-- Register accesses and delays play no role. -/
theorem on_bus_within : OnBus (Within P) :=
  ⟨fun _ => trivial, fun _ _ => trivial, fun _ => trivial⟩

@[simp] theorem within_rd {address : Nat} : Within P (.rd address) := trivial

@[simp] theorem within_delay {milliseconds : Nat} : Within P (.delay milliseconds) := trivial

/-- A command has one role. -/
@[simp] theorem within_command {op : Command} : Within P (.extra (.command op)) ↔ P op.role :=
  ⟨fun h => h _ rfl, fun h _ hrole => Option.some.inj hrole ▸ h⟩

/-- So has a call that can fail. -/
@[simp] theorem within_call {op : Call} : Within P (.extra (.call op)) ↔ P op.role :=
  ⟨fun h => h _ rfl, fun h _ hrole => Option.some.inj hrole ▸ h⟩

/-- So has a request for a resource. -/
@[simp] theorem within_query {op : Query} : Within P (.extra (.query op)) ↔ P op.role :=
  ⟨fun h => h _ rfl, fun h _ hrole => Option.some.inj hrole ▸ h⟩

namespace Driver

/-! ## One operation and a continuation -/

section Peel

variable {α : Type} {A : BusOp DriverOp → Prop}

/-- A command alone. -/
@[simp] theorem command_only (op : Command) :
    (command op).Only A ↔ A (.extra (.command op)) := Program.only_perform _

/-- A command is answered in one way only. -/
@[simp] theorem command_bind_only (op : Command) (f : Unit → DriverProgram α) :
    (command op >>= f).Only A ↔ A (.extra (.command op)) ∧ (f ()).Only A :=
  ⟨fun h => ⟨h.1, h.2 ()⟩, fun h => ⟨h.1, fun _ => h.2⟩⟩

/-- A call is followed for the errors and for success. -/
@[simp] theorem call_bind_only (op : Call) (f : Except Nat Unit → DriverProgram α) :
    (call op >>= f).Only A ↔ A (.extra (.call op)) ∧ (∀ code, (f (.error code)).Only A) ∧
      (f (.ok ())).Only A := by
  refine and_congr_right fun _ => ?_
  constructor
  · exact fun h => ⟨fun code => h (.error code), h (.ok ())⟩
  · rintro ⟨herror, hok⟩ (code | ⟨⟩)
    · exact herror code
    · exact hok

/-- A request is followed with the resource and without it. -/
@[simp] theorem query_bind_only (op : Query) (f : Bool → DriverProgram α) :
    (query op >>= f).Only A ↔ A (.extra (.query op)) ∧ (f false).Only A ∧ (f true).Only A := by
  refine and_congr_right fun _ => ?_
  exact ⟨fun h => ⟨h false, h true⟩, fun h answer => by cases answer; exacts [h.1, h.2]⟩

/-- The stream code requests nothing of the subsystems. -/
theorem lift_board_only (hhazard : P .hazard) {program : BoardProgram α} :
    (liftBoard program).Only (Within P) := by
  refine Program.Only.relabel (P := fun _ => True) (Program.Only.of_forall fun _ => trivial) ?_
  intro op _
  cases op with
  | extra op =>
      intro role hrole
      cases hharmless : op.harmless with
      | true => simp [DriverOp.role, hharmless] at hrole
      | false =>
          obtain rfl : Role.hazard = role := by simpa [DriverOp.role, hharmless] using hrole
          exact hhazard
  | _ => trivial

/-- Taking a mutex plays no role. -/
@[simp] theorem mutex_lock_bind_only {lock : Mutex} {f : Unit → DriverProgram α} :
    (mutexLock lock >>= f).Only (Within P) ↔ (f ()).Only (Within P) :=
  ⟨fun h => h.2 (), fun h => ⟨nofun, fun _ => h⟩⟩

/-- Neither does giving it back. -/
@[simp] theorem mutex_unlock_only {lock : Mutex} :
    (mutexUnlock lock).Only (Within P) := ⟨nofun, fun _ => trivial⟩

end Peel

/-! ## The functions of the driver -/

/-! ### PCI -/

/-- The unwinding of `saa7231_pci_init` releases mappings, and disables the device. -/
theorem only_pci_fail5 (hrelease : P (.release .pci)) (hupdate : P (.update .pci))
    (mmio1 mmio2 : Bool) : (pciFail5 mmio1 mmio2).Only (Within P) := by
  simp [pciFail5, pciFail4, pciFail3, pciFail2, pciFail1, pciFail0, hrelease, hupdate]

/-- The choice of the DMA masks counts as a request for the device. -/
theorem only_set_dma_masks (hrequest : P (.request .pci)) : setDmaMasks.Only (Within P) := by
  have hmask : ∀ bits, (call (.pciSetConsistentDmaMask bits)).Only (Within P) :=
    fun _ => (Program.only_perform _).mpr (within_call.mpr hrequest)
  simp [setDmaMasks, hrequest, hmask]

/-- The capabilities come from the configuration space. -/
theorem only_read_caps (hrequest : P (.request .pci)) : readCaps.Only (Within P) := by
  have hread : ∀ op : DriverOp, op.role = some (.request .pci) → Within P (.extra op) :=
    fun op hrole role h => by rwa [← Option.some.inj (hrole.symm.trans h)]
  refine Program.Only.bind ((Program.only_perform _).mpr (hread _ rfl)) fun revision => ?_
  cases saa7231Caps revision with
  | none => exact (Program.only_perform _).mpr (hread _ rfl)
  | some caps => trivial

/-- Up to the interrupt, `saa7231_pci_init` requests the mappings and the table of the MSI-X
entries, and releases mappings where it fails. -/
theorem only_pci_map (hrequest : P (.request .pci)) (htable : P (.request .msix))
    (hrelease : P (.release .pci)) (hupdate : P (.update .pci)) (dev : Dev) :
    (pciMap dev).Only (Within P) := by
  have hcaps := only_read_caps hrequest
  unfold pciMap
  simp only [pciFail5, pciFail4, pciFail3, pciFail2, pciFail1, pciFail0]
  simp only [command_bind_only, call_bind_only, within_command, within_call, Command.role,
    Call.role, Lock.subsystem, hupdate, hrequest, Program.only_pure, implies_true, true_and]
  refine Program.Only.bind (only_set_dma_masks hrequest) fun masks => ?_
  cases masks with
  | error code => simp [hrelease, hupdate]
  | ok _ =>
      simp only [command_bind_only, query_bind_only, within_command, within_query, Command.role,
        Query.role, hupdate, hrequest, Bool.not_false, Bool.not_true, Bool.false_eq_true, true_and,
        if_true, if_false]
      refine ⟨?_, ?_, ?_, ?_, Program.Only.bind hcaps fun caps => ?_,
        Program.Only.bind hcaps fun caps => ?_⟩ <;> simp [kzalloc, hrelease, hupdate, htable]

/-- The interrupt line is requested, and the mappings are released without it. -/
theorem only_pci_interrupt (hrequest : P (.request .irq)) (hrelease : P (.release .pci))
    (hupdate : P (.update .pci)) (dev : Dev) : (pciInterrupt dev).Only (Within P) := by
  have hirq : (requestIrq dev.intType).Only (Within P) := by
    simp [requestIrq, hrequest]
  refine Program.Only.bind hirq fun irq => ?_
  have hfail := only_pci_fail5 (P := P) hrelease hupdate dev.mmio1 dev.mmio2
  dsimp only
  rw [Program.only_ite]
  refine ⟨fun _ => Program.Only.bind hfail fun _ => trivial, fun _ => ?_⟩
  simp [hupdate, getVersion, rd_bind_only, rd_only]

/-- The whole of `saa7231_pci_init`. -/
theorem only_pci_init (hrequest : P (.request .pci)) (htable : P (.request .msix))
    (hirq : P (.request .irq)) (hrelease : P (.release .pci)) (hupdate : P (.update .pci))
    (dev : Dev) : (pciInit dev).Only (Within P) := by
  refine Program.Only.bind (only_pci_map hrequest htable hrelease hupdate dev) fun mapped => ?_
  cases mapped with
  | error ret => trivial
  | ok dev => exact only_pci_interrupt hirq hrelease hupdate dev

/-- The removal frees the interrupt line before the mappings; it leaves the table of the MSI-X
entries. -/
theorem only_pci_exit (hrelease : P (.release .pci)) (hirq : P (.release .irq))
    (hupdate : P (.update .pci)) (dev : Dev) : (pciExit dev).Only (Within P) := by
  unfold pciExit
  cases dev.mmio1 <;> cases dev.mmio2 <;> simp [hrelease, hirq, hupdate]

/-! ### Clocks and interrupts -/

/-- A `BUG_ON` is a hazard and nothing else. -/
theorem only_bug (hhazard : P .hazard) : bug.Only (Within P) := lift_board_only hhazard

/-- A root clock without PLL tables runs into a fault. -/
theorem only_cgu_init (hrequest : P (.request .clocks)) (config : DriverConfig)
    (hhazard : config.rootClk = .clkRootCustom → P .hazard) (dev : Dev) :
    (cguInit config dev).Only (Within P) := by
  have hprogram : (cguProgram bug config.verbose config.rootClk).Only (Within P) :=
    only_cgu_program (fun hroot => only_bug (hhazard hroot)) (fun _ _ => trivial)
      (fun _ => trivial) (fun _ _ => trivial) _
  simp [cguInit, kzalloc, hrequest, hprogram]

/-- The reset of the interrupt controller reads, writes and waits. -/
theorem only_msi_reset {A : BusOp (MsiOp DvbHandler) → Prop} (hA : OnBus A)
    (events : Events DvbHandler) : (msiReset events).Only A := by
  have hclear : ∀ i, (msiClear i : MsiProgram DvbHandler Unit).Only A := by
    intro i
    have hwr : ∀ value address, (wrNonzero value address : MsiProgram DvbHandler Unit).Only A := by
      intro value address
      unfold wrNonzero
      rw [Program.only_ite]
      exact ⟨fun _ => wr_only.mpr (hA.wr _ _), fun _ => trivial⟩
    refine rd_bind_only.mpr ⟨hA.rd _, fun enable => rd_bind_only.mpr ⟨hA.rd _, fun status => ?_⟩⟩
    exact Program.Only.bind (hwr _ _) fun _ => hwr _ _
  have hcheck : ∀ n i, (msiCheckReset i n : MsiProgram DvbHandler Bool).Only A := by
    intro n
    induction n with
    | zero => exact fun _ => trivial
    | succ n ih => exact fun i => by simp [msiCheckReset, rd_bind_only, hA.rd, ih]
  unfold msiReset
  dsimp only
  generalize saa7231MsiRegs = regs
  generalize saa7231MsiLoops = loops
  refine wr_bind_only.mpr ⟨hA.wr _ _, delay_bind_only.mpr ⟨hA.delay _, ?_⟩⟩
  refine rd_bind_only.mpr ⟨hA.rd _, fun _ => ?_⟩
  refine wr_bind_only.mpr ⟨hA.wr _ _, wr_bind_only.mpr ⟨hA.wr _ _, ?_⟩⟩
  refine Program.Only.bind (Program.Only.loop (fun i _ _ => wr_only.mpr (hA.wr _ _)) ()) fun _ => ?_
  refine Program.Only.bind (Program.Only.loop (fun i _ _ => hclear i) ()) fun _ => ?_
  refine delay_bind_only.mpr ⟨hA.delay _, Program.Only.bind (hcheck _ _) fun passed => ?_⟩
  cases passed <;> trivial

/-- `saa7231_msi_init` requests the two tables of the interrupt controller. -/
theorem only_msi_init (hrequest : P (.request .interrupts)) (hupdate : P (.update .interrupts))
    (dev : Dev) : (msiInit dev).Only (Within P) := by
  have hreset : ∀ events, (liftMsi (msiReset events)).Only (Within P) := by
    intro events
    have honly : (msiReset events).Only (WritesIn (fun _ => True) fun _ => False) :=
      only_msi_reset ⟨fun _ => trivial, fun _ _ => trivial, fun _ => trivial⟩ events
    refine Program.Only.relabel honly fun op hop => ?_
    cases op with
    | extra op => exact hop.elim
    | _ => trivial
  simp [msiInit, kzalloc, assign, hrequest, hupdate, hreset]

/-- `saa7231_msi_exit` releases them. -/
theorem only_msi_exit (hrelease : P (.release .interrupts)) : msiExit.Only (Within P) := by
  simp [msiExit, kfree, hrelease]

/-! ### I2C masters -/

/-- A master is registered under its own name, and its registers are set up. -/
theorem only_i2c_add {i : Nat} (hrequest : P (.request (.master i)))
    (hupdate : P (.update (.master i))) (config : DriverConfig) :
    (i2cAdd config i).Only (Within P) := by
  simp only [i2cAdd, assign, command_bind_only, call_bind_only, within_command, within_call,
    Command.role, Call.role, Lock.subsystem, Field.subsystem, hrequest, hupdate, true_and]
  exact ⟨fun _ => trivial, Program.Only.bind (only_hwinit (upkeep_of_on_bus on_bus_within)) fun _ => trivial⟩

/-- So are all masters from a number on. -/
theorem only_i2c_add_all (config : DriverConfig) (n i : Nat)
    (hrequest : ∀ k, i ≤ k → P (.request (.master k)))
    (hupdate : ∀ k, i ≤ k → P (.update (.master k))) : (i2cAddAll config i n).Only (Within P) := by
  induction n generalizing i with
  | zero => trivial
  | succ n ih =>
      refine Program.Only.bind
        (only_i2c_add (hrequest i le_rfl) (hupdate i le_rfl) config) fun err => ?_
      rw [Program.only_ite]
      exact ⟨fun _ => trivial, fun _ => ih (i + 1) (fun k hk => hrequest k (by omega))
        fun k hk => hupdate k (by omega)⟩

/-- `saa7231_i2c_init` requests the array and the masters in it. -/
theorem only_i2c_init (hrequest : P (.request .i2c)) (hmaster : ∀ i, P (.request (.master i)))
    (hupdate : ∀ i, P (.update (.master i))) (config : DriverConfig) :
    (i2cInit config).Only (Within P) := by
  have hunlock : ∀ err : Int,
      (mutexUnlock .devLock >>= fun _ => pure err : DriverProgram Int).Only (Within P) :=
    fun _ => Program.Only.bind mutex_unlock_only fun _ => trivial
  refine mutex_lock_bind_only.mpr ?_
  simp only [kzalloc, query_bind_only, within_query, Query.role, Allocation.subsystem, hrequest,
    true_and]
  refine ⟨hunlock _, ?_⟩
  exact Program.Only.bind
    (only_i2c_add_all config _ 0 (fun i _ => hmaster i) fun i _ => hupdate i) fun _ => hunlock _

/-- `saa7231_i2c_exit` releases both. -/
theorem only_i2c_exit (hrelease : P (.release .i2c)) (hmaster : ∀ i, P (.release (.master i))) :
    i2cExit.Only (Within P) := by
  refine mutex_lock_bind_only.mpr ?_
  refine Program.Only.bind (Program.Only.loop (fun i _ _ => ?_) ()) fun _ => ?_
  · simp [hmaster]
  · simp [kfree, hrelease]

/-! ### The embedded processor and the DMA channels -/

/-- The start of the processor writes its registers. -/
theorem only_bsl_autoload (hupdate : P (.update .processor)) (config : DriverConfig) :
    (bslAutoload config).Only (Within P) := by
  simp [bslAutoload, rd_bind_only, rd_only, delay_bind_only, hupdate]

/-- The set-up of the DMA channels writes registers only. -/
theorem only_if_init : ifInit.Only (Within P) :=
  Program.Only.bind (Program.Only.loop (fun _ _ _ => wr_only.mpr trivial) ()) fun _ => trivial

/-! ### DVB adapters -/

/-- The unwinding of an adapter releases what belongs to the adapter. -/
theorem only_dvb_err4 {i : Nat} (hrelease : P (.release (.adapter i))) :
    (dvbErr4 i).Only (Within P) := by
  simp [dvbErr4, dvbErr3, dvbErr2, dvbErr1, dvbErr0, hrelease]

/-- The demux of an adapter is requested, and released where it fails. -/
theorem only_dvb_register_demux {i : Nat} (hrequest : P (.request (.adapter i)))
    (hrelease : P (.release (.adapter i))) : (dvbRegisterDemux i).Only (Within P) := by
  have hnet : (call (.dvbNetInit i)).Only (Within P) :=
    (Program.only_perform _).mpr (within_call.mpr hrequest)
  simp [dvbRegisterDemux, dvbErr4, dvbErr3, dvbErr2, dvbErr1, dvbErr0, hrequest, hrelease, hnet]

/-- So is its frontend. -/
theorem only_dvb_register_fe {i : Nat} (hrequest : P (.request (.adapter i)))
    (hrelease : P (.release (.adapter i))) (config : DriverConfig) :
    (dvbRegisterFe config i).Only (Within P) := by
  simp [dvbRegisterFe, only_dvb_err4, hrequest, hrelease]

/-- A vector outside the table is reported. -/
theorem only_add_event {A : BusOp DriverOp → Prop} (hA : OnBus A) (events : Events DvbHandler)
    (adapType : AdapterType) (number : Nat)
    (hbug : saa7231MsiVectors < adapType.vector number → bug.Only A) :
    (dvbAddIrqevent bug events adapType number).Only A := by
  have hvector : ∀ vector ctl, (vectorCtl vector ctl : DriverProgram Unit).Only A := by
    intro vector ctl
    cases ctl <;> simp [vectorCtl, rd_bind_only, wr_only, hA.rd, hA.wr]
  have hsetup : (setupVector bug (adapType.vector number) .rising).Only A := by
    unfold setupVector
    dsimp only
    rw [Program.only_ite]
    simp only [rd_bind_only, wr_bind_only, hA.rd, hA.wr, hvector, implies_true, and_true]
    exact fun hbeyond => Program.Only.bind (hbug hbeyond) fun _ => by
      simp [rd_bind_only, wr_bind_only, hvector, hA.rd, hA.wr]
  exact Program.Only.bind hsetup fun _ => trivial

/-- The stream of an adapter is initialised, which can crash. -/
theorem only_dvb_register_stream {i : Nat} (hupdate : P (.update (.adapter i)))
    (hhazard : P .hazard) (config : DriverConfig) (dev : Dev) :
    (dvbRegisterStream config i dev).Only (Within P) := by
  refine Program.Only.bind (lift_board_only hhazard) fun stream => ?_
  cases stream with
  | none => trivial
  | some stream =>
      simp only [assign, command_bind_only, within_command, Command.role, Field.subsystem,
        Lock.subsystem, hupdate, true_and]
      exact Program.Only.bind (only_add_event on_bus_within _ _ _ fun _ => only_bug hhazard)
        fun _ => trivial

/-- An adapter requests, updates and releases what is its own. -/
theorem only_dvb_register {i : Nat} (hrequest : P (.request (.adapter i)))
    (hrelease : P (.release (.adapter i))) (hupdate : P (.update (.adapter i)))
    (hhazard : P .hazard) (config : DriverConfig) (dev : Dev) :
    (dvbRegister config i dev).Only (Within P) := by
  refine Program.Only.bind (only_dvb_register_demux hrequest hrelease) fun ret => ?_
  rw [Program.only_ite]
  refine ⟨fun _ => trivial, fun _ => ?_⟩
  simp only [assign, command_bind_only, within_command, Command.role, Field.subsystem, hupdate,
    true_and]
  refine Program.Only.bind (only_dvb_register_fe hrequest hrelease config) fun fe => ?_
  rw [Program.only_ite]
  exact ⟨fun _ => trivial, fun _ => only_dvb_register_stream hupdate hhazard _ _⟩

/-- The roles of the adapters from `i` on. -/
def AllowsAdapters (P : Role → Prop) (i : Nat) : Prop :=
  ∀ k, i ≤ k → P (.request (.adapter k)) ∧ P (.release (.adapter k)) ∧ P (.update (.adapter k))

/-- The adapters from a number on. -/
theorem only_dvb_register_all (config : DriverConfig) (n i : Nat) (h : AllowsAdapters P i)
    (hhazard : P .hazard) (dev : Dev) : (dvbRegisterAll config i n dev).Only (Within P) := by
  induction n generalizing i dev with
  | zero => trivial
  | succ n ih =>
      obtain ⟨hrequest, hrelease, hupdate⟩ := h i le_rfl
      refine Program.Only.bind (only_dvb_register hrequest hrelease hupdate hhazard config dev)
        fun registered => ?_
      dsimp only
      rw [Program.only_ite]
      exact ⟨fun _ => trivial, fun _ => ih (i + 1) (fun k hk => h k (by omega)) _⟩

/-- `saa7231_dvb_init` requests the array and the adapters in it. -/
theorem only_dvb_init (hrequest : P (.request .dvb)) (hupdate : P (.update .dvb))
    (h : AllowsAdapters P 0) (hhazard : P .hazard) (config : DriverConfig) (dev : Dev) :
    (dvbInit config dev).Only (Within P) := by
  have hall : ∀ n dev, (dvbRegisterAll config 0 n dev).Only (Within P) :=
    fun n dev => only_dvb_register_all config n 0 h hhazard dev
  simp [dvbInit, kzalloc, hrequest, hupdate, hall]

/-- `saa7231_dvb_exit` releases both. -/
theorem only_dvb_exit (hrelease : P (.release .dvb))
    (hadapter : ∀ i, P (.release (.adapter i))) (hhazard : P .hazard) (dev : Dev) :
    (dvbExit dev).Only (Within P) := by
  refine Program.Only.bind (Program.Only.loop (fun i _ events => ?_) dev.events) fun events => ?_
  · refine Program.Only.bind (lift_board_only hhazard) fun events => ?_
    cases dev.fe i <;> simp [hadapter]
  · simp [kfree, hrelease]

/-! ### Probe and removal -/

/-- The files of the device are requested, and a failure is only printed. -/
theorem only_create_files (hrequest : P (.request .files)) (attrs : List DevAttr) :
    (createFiles attrs).Only (Within P) := by
  induction attrs with
  | nil => trivial
  | cons attr rest ih => simp [createFiles, hrequest, ih]

section Labels

variable (hrelease : ∀ subsystem, subsystem ≠ .msix → P (.release subsystem))
  (hupdate : P (.update .pci)) (dev : Dev)

include hrelease hupdate

/-- The error paths of probe release and nothing else, but never the table of the MSI-X entries. -/
theorem only_probe_fail2 : (probeFail2 dev).Only (Within P) := by
  refine Program.Only.bind (only_pci_exit (hrelease _ nofun) (hrelease _ nofun) hupdate dev)
    fun _ => ?_
  simp [probeFail1, kfree, hrelease]

/-- The unwinding after the masters leaves the table of the MSI-X entries. -/
theorem only_probe_fail4 : (probeFail4 dev).Only (Within P) := by
  refine Program.Only.bind (only_msi_exit (hrelease _ nofun)) fun _ => ?_
  have hfail := only_probe_fail2 hrelease hupdate dev
  simp [probeFail3, cguExit, kfree, hrelease, hfail]

/-- So does the unwinding after the processor. -/
theorem only_probe_fail5 : (probeFail5 dev).Only (Within P) :=
  Program.Only.bind (only_i2c_exit (hrelease _ nofun) fun _ => hrelease _ nofun)
    fun _ => only_probe_fail4 hrelease hupdate dev

/-- So does the removal. -/
theorem only_pci_remove (hhazard : P .hazard) : (pciRemove dev).Only (Within P) := by
  refine Program.Only.bind
    (only_dvb_exit (hrelease _ nofun) (fun _ => hrelease _ nofun) hhazard dev) fun dev => ?_
  refine Program.Only.bind (only_i2c_exit (hrelease _ nofun) fun _ => hrelease _ nofun)
    fun _ => ?_
  refine Program.Only.bind (only_msi_exit (hrelease _ nofun)) fun _ => ?_
  have hexit := only_pci_exit (hrelease _ nofun) (hrelease _ nofun) hupdate dev
  have hfiles : ∀ attrs : List DevAttr,
      (attrs.forM fun attr => command (.deviceRemoveFile attr) : DriverProgram _).Only
        (Within P) := by
    intro attrs
    induction attrs with
    | nil => trivial
    | cons attr rest ih => exact (command_bind_only _ _).mpr ⟨by simp [hrelease], ih⟩
  simp only [cguExit, kfree, command_bind_only, within_command, Command.role,
    Allocation.subsystem, hrelease _ (nofun : Subsystem.clocks ≠ .msix), true_and]
  refine Program.Only.bind (hfiles _) fun _ => ?_
  refine Program.Only.bind hexit fun _ => ?_
  simp [hrelease]

end Labels

/-- The roles of the operations behind `saa7231_pci_init`: they no longer request the mappings, the
table of the MSI-X entries or the interrupt line, and never release the table. -/
structure Later (role : Role) : Prop where
  mapping : role ≠ .request .pci
  table : role ≠ .request .msix
  line : role ≠ .request .irq
  kept : role ≠ .release .msix

section Later

variable (h : ∀ role, Later role → P role)

include h

/-- Everything but the table is released behind the mappings. -/
theorem later_release {subsystem : Subsystem} (hne : subsystem ≠ .msix) :
    P (.release subsystem) :=
  h _ ⟨nofun, nofun, nofun, fun heq => hne (Role.release.inj heq)⟩

/-- Every field is assigned there. -/
theorem later_update (subsystem : Subsystem) : P (.update subsystem) :=
  h _ ⟨nofun, nofun, nofun, nofun⟩

/-- The streams are initialised there. -/
theorem later_hazard : P .hazard := h _ ⟨nofun, nofun, nofun, nofun⟩

/-- Everything but the mappings, the table and the line is requested there. -/
theorem later_request {subsystem : Subsystem} (hpci : subsystem ≠ .pci) (hmsix : subsystem ≠ .msix)
    (hirq : subsystem ≠ .irq) : P (.request subsystem) :=
  h _ ⟨fun heq => hpci (Role.request.inj heq), fun heq => hmsix (Role.request.inj heq),
    fun heq => hirq (Role.request.inj heq), nofun⟩

/-- The adapters are registered behind the mappings. -/
theorem only_later_dvb_init (config : DriverConfig) (dev : Dev) :
    (dvbInit config dev).Only (Within P) :=
  only_dvb_init (later_request h nofun nofun nofun) (later_update h _)
    (fun _ _ => ⟨later_request h nofun nofun nofun, later_release h nofun, later_update h _⟩)
    (later_hazard h) _ _

/-- The masters, the processor and the adapters come behind the mappings. -/
theorem only_probe_inputs (config : DriverConfig) (dev : Dev) :
    (probeInputs config dev).Only (Within P) := by
  have hrelease : ∀ subsystem, subsystem ≠ .msix → P (.release subsystem) :=
    fun _ hne => later_release h hne
  have hfail4 := only_probe_fail4 hrelease (later_update h _)
  have hfail5 := only_probe_fail5 hrelease (later_update h _)
  refine Program.Only.bind (only_i2c_init (later_request h nofun nofun nofun)
    (fun _ => later_request h nofun nofun nofun) (fun _ => later_update h _) config) fun err => ?_
  rw [Program.only_ite]
  refine ⟨fun _ => Program.Only.bind (hfail4 dev) fun _ => trivial, fun _ => ?_⟩
  refine Program.Only.bind (only_bsl_autoload (later_update h _) config) fun _ => ?_
  refine Program.Only.bind only_if_init fun err => ?_
  rw [Program.only_ite]
  refine ⟨fun _ => Program.Only.bind (hfail4 dev) fun _ => trivial, fun _ => ?_⟩
  refine Program.Only.bind (only_later_dvb_init h config dev) fun inited => ?_
  rw [Program.only_ite]
  refine ⟨fun _ => Program.Only.bind (hfail5 inited.2) fun _ => trivial, fun _ => ?_⟩
  exact Program.Only.bind (only_create_files (later_request h nofun nofun nofun) _)
    fun _ => trivial

/-- So do the clocks and the interrupt controller. -/
theorem only_probe_units (config : DriverConfig) (dev : Dev) :
    (probeUnits config dev).Only (Within P) := by
  have hrelease : ∀ subsystem, subsystem ≠ .msix → P (.release subsystem) :=
    fun _ hne => later_release h hne
  have hfail2 := only_probe_fail2 hrelease (later_update h _)
  refine Program.Only.bind (only_cgu_init (later_request h nofun nofun nofun) config
    (fun _ => later_hazard h) dev) fun inited => ?_
  rw [Program.only_ite]
  refine ⟨fun _ => Program.Only.bind (hfail2 inited.2) fun _ => trivial, fun _ => ?_⟩
  refine Program.Only.bind (only_msi_init (later_request h nofun nofun nofun) (later_update h _)
    inited.2) fun armed => ?_
  rw [Program.only_ite]
  refine ⟨fun _ => Program.Only.bind ?_ fun _ => trivial, fun _ => only_probe_inputs h _ _⟩
  simp [probeFail3, cguExit, kfree, hrelease, hfail2]

end Later

end Driver

end Saa7231
