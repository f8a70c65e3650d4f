import Saa7231.Driver.Subsystems
import Saa7231.Interaction.Order

/-!
# Probe publishes before it initialises

Three calls let other threads in: `request_irq`, `i2c_add_adapter` and `dvb_dmxdev_init`. Each comes
before the assignment of a field that the callback dereferences, and probe performs it only once
for every master and adapter. In all transcripts the field is not yet assigned when the callback
becomes possible (`publication_first`).
-/

namespace Saa7231

open Interaction Bus Program

/-- What other threads run in the driver: the interrupt handler, a transfer of an I2C master, and
the feeds of the demux of an adapter. -/
inductive Callback where
  | interrupt
  | transfer (i : Nat)
  | feed (i : Nat)
  deriving DecidableEq

/-- The call that makes the callback possible. -/
def Callback.publication : Callback → Call
  | .interrupt => .requestIrq
  | .transfer i => .i2cAddAdapter i
  | .feed i => .dvbDmxdevInit i

/-- The field that the callback dereferences first. -/
def Callback.field : Callback → Field
  | .interrupt => .eventHandler
  | .transfer i => .i2cDevice i
  | .feed i => .dvbDevice i

/-- The operation makes the callback possible. -/
def Publishes (callback : Callback) (op : BusOp DriverOp) : Prop :=
  op = .extra (.call callback.publication)

/-- The operation assigns the field of the callback. -/
def Fills (callback : Callback) (op : BusOp DriverOp) : Prop :=
  op = .extra (.command (.assign callback.field))

namespace Driver

variable {callback : Callback} {config : DriverConfig}

/-- Without the role of the publication nothing is published. -/
theorem not_publishes {op : BusOp DriverOp}
    (h : Within (· ≠ callback.publication.role) op) : ¬ Publishes callback op := by
  rintro rfl
  exact within_call.mp h rfl

/-- Without updates of its subsystem the field is not filled. -/
theorem not_fills {op : BusOp DriverOp}
    (h : Within (· ≠ .update callback.field.subsystem) op) : ¬ Fills callback op := by
  rintro rfl
  exact within_command.mp h rfl

/-- The program publishes before it assigns. -/
abbrev PublishesFirst {α : Type} (callback : Callback) (program : DriverProgram α) : Prop :=
  program.Ordered (Publishes callback) (Fills callback)

/-- A release publishes nothing. -/
theorem release_ne_publication (subsystem : Subsystem) :
    Role.release subsystem ≠ callback.publication.role := by
  cases callback <;> exact nofun

/-- Nor does an update. -/
theorem update_ne_publication (subsystem : Subsystem) :
    Role.update subsystem ≠ callback.publication.role := by
  cases callback <;> exact nofun

/-- Nor a hazard. -/
theorem hazard_ne_publication : Role.hazard ≠ callback.publication.role := by
  cases callback <;> exact nofun

section Parts

variable {α β : Type} {program : DriverProgram α} {f : α → DriverProgram β}

/-- A part without the role of the assignment comes first. -/
theorem publishes_first_after
    (h : program.Only (Within (· ≠ .update callback.field.subsystem)))
    (hf : ∀ value, PublishesFirst callback (f value)) : PublishesFirst callback (program >>= f) :=
  Ordered.after (h.mono fun _ hop => not_fills hop) hf

/-- A part without the role of the publication comes last. -/
theorem publishes_first_before (h : PublishesFirst callback program)
    (hf : ∀ value, (f value).Only (Within (· ≠ callback.publication.role))) :
    PublishesFirst callback (program >>= f) :=
  h.before fun value => (hf value).mono fun _ hop => not_publishes hop

/-- A program that publishes nothing has nothing to show. -/
theorem publishes_first_of_within (h : program.Only (Within (· ≠ callback.publication.role))) :
    PublishesFirst callback program :=
  ordered_of_not_first (h.mono fun _ hop => not_publishes hop)

end Parts

/-! ## I2C masters -/

/-- A call that fills nothing, and what follows. -/
theorem publishes_first_call {α : Type} {op : Call} {f : Except Nat Unit → DriverProgram α}
    (hf : ∀ answer, PublishesFirst callback (f answer)) :
    PublishesFirst callback (call op >>= f) :=
  Ordered.after ((only_perform _).mpr (by rintro ⟨⟩)) hf

/-- A master is published before its registers are set up. -/
theorem publishes_first_i2c_add (i k : Nat) :
    PublishesFirst (.transfer i) (i2cAdd config k) := by
  have hlast : ∀ k, (assign (.i2cDevice k) >>= fun _ => i2cHwinit (i2cMaster config k) >>=
      fun _ => pure 0 : DriverProgram Int).Only
        (Within (· ≠ (Callback.transfer i).publication.role)) := by
    intro k
    refine (command_bind_only _ _).mpr ⟨within_command.mpr nofun, ?_⟩
    exact Only.bind (only_hwinit (upkeep_of_on_bus on_bus_within)) fun _ => trivial
  refine Ordered.after ((command_only _).mpr (by rintro ⟨⟩)) fun _ => ?_
  refine publishes_first_call fun answer => ?_
  cases answer with
  | error code => trivial
  | ok _ => exact publishes_first_of_within (hlast k)

/-- Master `i` is added in one iteration only. -/
theorem publishes_first_i2c_add_all (i n k : Nat) :
    PublishesFirst (.transfer i) (i2cAddAll config k n) := by
  induction n generalizing k with
  | zero => trivial
  | succ n ih =>
      refine Ordered.bind (publishes_first_i2c_add i k) (fun err => ?_) ?_
      · exact ordered_ite.mpr ⟨fun _ => trivial, fun _ => ih (k + 1)⟩
      · by_cases hk : k = i
        · refine Or.inr fun err => (only_ite _ _ _).mpr ⟨fun _ => trivial, fun _ => ?_⟩
          refine (only_i2c_add_all config n (k + 1) ?_ ?_).mono fun _ hop => not_publishes hop
          · exact fun j hj heq => absurd (Subsystem.master.inj (Role.request.inj heq)) (by omega)
          · exact fun _ _ => nofun
        · refine Or.inl ((only_i2c_add ?_ ?_ config).mono fun _ hop => not_fills hop)
          · exact nofun
          · exact fun heq => hk (Subsystem.master.inj (Role.update.inj heq))

/-- So it is among all masters. -/
theorem publishes_first_i2c_init (i : Nat) :
    PublishesFirst (.transfer i) (i2cInit config) := by
  refine publishes_first_after ⟨nofun, fun _ => trivial⟩ fun _ => ?_
  refine publishes_first_after ((only_perform _).mpr (within_query.mpr nofun)) fun granted => ?_
  have hunlock : ∀ err : Int, (mutexUnlock .devLock >>= fun _ => pure err).Only
      (Within (· ≠ (Callback.transfer i).publication.role)) :=
    fun err => Only.bind mutex_unlock_only fun _ => trivial
  refine ordered_ite.mpr ⟨fun _ => publishes_first_of_within (hunlock _), fun _ => ?_⟩
  exact publishes_first_before (publishes_first_i2c_add_all i _ 0) hunlock

/-! ## DVB adapters -/

/-- The demux is registered before its stream is there. -/
theorem publishes_first_dvb_register (i k : Nat) (dev : Dev) :
    PublishesFirst (.feed i) (dvbRegister config k dev) := by
  refine publishes_first_after (only_dvb_register_demux (by simp) (by simp)) fun ret => ?_
  refine ordered_ite.mpr ⟨fun _ => trivial, fun _ => ordered_of_not_first ?_⟩
  have hfe : (dvbRegisterFe config k).Only fun op => ¬ Publishes (.feed i) op := by
    simp [dvbRegisterFe, dvbErr4, dvbErr3, dvbErr2, dvbErr1, dvbErr0, Publishes,
      Callback.publication]
  refine (command_bind_only _ _).mpr ⟨by simp [Publishes], Only.bind hfe fun fe => ?_⟩
  refine (only_ite _ _ _).mpr ⟨fun _ => trivial, fun _ => ?_⟩
  exact (only_dvb_register_stream (update_ne_publication _) hazard_ne_publication config _).mono
    fun _ hop => not_publishes hop

/-- Adapter `i` is registered in one iteration only. -/
theorem publishes_first_dvb_register_all (i n k : Nat) (dev : Dev) :
    PublishesFirst (.feed i) (dvbRegisterAll config k n dev) := by
  induction n generalizing k dev with
  | zero => trivial
  | succ n ih =>
      refine Ordered.bind (publishes_first_dvb_register i k dev) (fun registered => ?_) ?_
      · exact ordered_ite.mpr ⟨fun _ => trivial, fun _ => ih (k + 1) _⟩
      · by_cases hk : k = i
        · refine Or.inr fun registered => (only_ite _ _ _).mpr ⟨fun _ => trivial, fun _ => ?_⟩
          refine (only_dvb_register_all config n (k + 1) ?_ hazard_ne_publication _).mono
            fun _ hop => not_publishes hop
          exact fun j hj => ⟨fun heq => absurd (Subsystem.adapter.inj (Role.request.inj heq))
            (by omega), nofun, nofun⟩
        · refine Or.inl
            ((only_dvb_register ?_ ?_ ?_ nofun config dev).mono fun _ hop => not_fills hop)
          · exact nofun
          · exact nofun
          · exact fun heq => hk (Subsystem.adapter.inj (Role.update.inj heq))

/-- So it is among all adapters. -/
theorem publishes_first_dvb_init (i : Nat) (dev : Dev) :
    PublishesFirst (.feed i) (dvbInit config dev) := by
  refine publishes_first_after ((only_perform _).mpr (within_query.mpr nofun)) fun granted => ?_
  refine ordered_ite.mpr ⟨fun _ => trivial, fun _ => ?_⟩
  have hall : ∀ n dev, PublishesFirst (.feed i) (dvbRegisterAll config 0 n dev) :=
    fun n dev => publishes_first_dvb_register_all i n 0 dev
  cases config.frontendEnable with
  | false => exact hall _ _
  | true =>
      simp only [if_true]
      exact publishes_first_after ((command_only _).mpr (within_command.mpr (by rintro ⟨⟩)))
        fun _ => hall _ _

/-! ## Probe -/

/-- The error paths publish nothing. -/
theorem publishes_first_unwound {undo : DriverProgram Unit} {result : Int × Dev}
    (h : undo.Only (Within (· ≠ callback.publication.role))) :
    PublishesFirst callback (undo >>= fun _ => pure result) :=
  publishes_first_of_within (Only.bind h fun _ => trivial)

/-- Behind the masters probe makes no transfer possible. -/
theorem publishes_first_transfer_inputs (i : Nat) (dev : Dev) :
    PublishesFirst (.transfer i) (probeInputs config dev) := by
  have hfail4 : ∀ dev, (probeFail4 dev).Only
      (Within (· ≠ (Callback.transfer i).publication.role)) :=
    only_probe_fail4 (fun _ _ => release_ne_publication _) (update_ne_publication _)
  have hfail5 : ∀ dev, (probeFail5 dev).Only
      (Within (· ≠ (Callback.transfer i).publication.role)) :=
    only_probe_fail5 (fun _ _ => release_ne_publication _) (update_ne_publication _)
  refine publishes_first_before (publishes_first_i2c_init i) fun err => ?_
  refine (only_ite _ _ _).mpr ⟨fun _ => Only.bind (hfail4 _) fun _ => trivial, fun _ => ?_⟩
  refine Only.bind (only_bsl_autoload (update_ne_publication _) config) fun _ => ?_
  refine Only.bind only_if_init fun err => ?_
  refine (only_ite _ _ _).mpr ⟨fun _ => Only.bind (hfail4 _) fun _ => trivial, fun _ => ?_⟩
  refine Only.bind (only_dvb_init nofun nofun (fun _ _ => ⟨nofun, nofun, nofun⟩) nofun config dev)
    fun inited => ?_
  refine (only_ite _ _ _).mpr ⟨fun _ => Only.bind (hfail5 _) fun _ => trivial, fun _ => ?_⟩
  exact Only.bind (only_create_files nofun _) fun _ => trivial

/-- In this part of probe. -/
theorem publishes_first_feed_inputs (i : Nat) (dev : Dev) :
    PublishesFirst (.feed i) (probeInputs config dev) := by
  have hfail4 : ∀ {result : Int × Dev} dev,
      PublishesFirst (.feed i) (probeFail4 dev >>= fun _ => pure result) := fun _ =>
    publishes_first_unwound
      (only_probe_fail4 (fun _ _ => release_ne_publication _) (update_ne_publication _) _)
  have hfail5 : ∀ dev, (probeFail5 dev).Only (Within (· ≠ (Callback.feed i).publication.role)) :=
    only_probe_fail5 (fun _ _ => release_ne_publication _) (update_ne_publication _)
  refine publishes_first_after (only_i2c_init nofun (fun _ => nofun) (fun _ => nofun) config)
    fun err => ?_
  refine ordered_ite.mpr ⟨fun _ => hfail4 _, fun _ => ?_⟩
  refine publishes_first_after (only_bsl_autoload nofun config) fun _ => ?_
  refine publishes_first_after only_if_init fun err => ?_
  refine ordered_ite.mpr ⟨fun _ => hfail4 _, fun _ => ?_⟩
  refine publishes_first_before (publishes_first_dvb_init i dev) fun inited => ?_
  refine (only_ite _ _ _).mpr ⟨fun _ => Only.bind (hfail5 _) fun _ => trivial, fun _ => ?_⟩
  exact Only.bind (only_create_files nofun _) fun _ => trivial

/-- The parts before it register neither a master nor a demux. -/
theorem publishes_first_probe_units (dev : Dev) (hcallback : callback ≠ .interrupt)
    (hinputs : ∀ dev, PublishesFirst callback (probeInputs config dev)) :
    PublishesFirst callback (probeUnits config dev) := by
  have hfail2 : ∀ dev, (probeFail2 dev).Only (Within (· ≠ callback.publication.role)) :=
    only_probe_fail2 (fun _ _ => release_ne_publication _) (update_ne_publication _)
  have hfail3 : ∀ dev, (probeFail3 dev).Only (Within (· ≠ callback.publication.role)) := by
    exact fun dev => Only.bind ((command_only _).mpr
      (within_command.mpr (release_ne_publication _))) fun _ => hfail2 dev
  have hinterrupts : Role.update .interrupts ≠ .update callback.field.subsystem := by
    cases callback <;> first | exact absurd rfl hcallback | exact nofun
  refine publishes_first_after (only_cgu_init nofun config (fun _ => nofun) dev) fun inited => ?_
  refine ordered_ite.mpr ⟨fun _ => publishes_first_unwound (hfail2 _), fun _ => ?_⟩
  refine publishes_first_after (only_msi_init nofun hinterrupts _) fun armed => ?_
  exact ordered_ite.mpr ⟨fun _ => publishes_first_unwound (hfail3 _), fun _ => hinputs _⟩

/-- Whatever the answers, a callback becomes possible before its field is assigned. -/
theorem publishes_first_probe (callback : Callback) :
    PublishesFirst callback (pciProbe config) := by
  have hpci : Role.update .pci ≠ .update callback.field.subsystem := by
    cases callback <;> exact nofun
  refine publishes_first_after ((only_perform _).mpr (within_query.mpr nofun)) fun granted => ?_
  refine ordered_ite.mpr ⟨fun _ => trivial, fun _ => ?_⟩
  refine publishes_first_after (only_pci_init nofun nofun nofun nofun hpci _) fun inited => ?_
  refine ordered_ite.mpr ⟨fun _ => publishes_first_unwound ?_, fun _ => ?_⟩
  · exact (command_only _).mpr (within_command.mpr (release_ne_publication _))
  cases callback with
  | interrupt =>
      exact publishes_first_of_within (only_probe_units (fun _ hrole => hrole.line) config _)
  | transfer i =>
      exact publishes_first_probe_units _ nofun (publishes_first_transfer_inputs i)
  | feed i => exact publishes_first_probe_units _ nofun (publishes_first_feed_inputs i)

/-- The removal makes nothing possible. -/
theorem pci_remove_unpublished (callback : Callback) (dev : Dev) :
    (pciRemove dev).Only fun op => ¬ Publishes callback op :=
  (only_pci_remove (fun _ _ => release_ne_publication _) (update_ne_publication _) dev
    hazard_ne_publication).mono fun _ hop => not_publishes hop

end Driver

end Saa7231
