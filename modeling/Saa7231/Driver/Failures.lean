import Saa7231.Driver.Subsystems
import Saa7231.Stream.InitDetection

/-!
# Which failures probe notices

`noticed` marks the steps whose failure probe takes for an error: the requests of the stream code,
and the calls and queries that are `required`. Every function of probe returns a negative error
exactly if one of its steps failed, with two exceptions: there is no stream for a third adapter,
and `saa7231_msi_init` also fails on what it reads.
-/

namespace Saa7231

open Interaction Bus

/-- The calls whose errors are errors of the driver. -/
def Call.required : Call → Bool
  | .pciSetDmaMask _ | .dvbNetInit _ | .deviceCreateFile _ => false
  | _ => true

/-- The queries whose `NULL` is an error of the driver. The mapping of BAR 2 is not tested. -/
def Query.required : Query → Bool
  | .ioremap .bar2 | .frontendAttach _ => false
  | _ => true

/-- A step whose failure the driver takes for an error. -/
def noticed : DriverStep → Bool
  | ⟨.extra (.board op), answer⟩ => rejected ⟨.extra op, answer⟩
  | ⟨.extra (.call op), answer⟩ =>
      op.required && match (show Except Nat Unit from answer) with
        | .ok () => false
        | .error _ => true
  | ⟨.extra (.query op), answer⟩ => op.required && !(show Bool from answer)
  | _ => false

namespace Driver

/-- The program fails exactly if a step does. -/
abbrev Reports {α : Type} (bad good : α → Prop) (program : DriverProgram α) : Prop :=
  program.Detects (fun step => noticed step = true) bad good

/-! ## Single operations -/

section Operations

/-- A command cannot fail. -/
@[simp] theorem reports_command {op : Command} {bad good : Unit → Prop} :
    Reports bad good (command op) ↔ good () :=
  ⟨fun h => (h ()).2 nofun, fun h _ => ⟨nofun, fun _ => h⟩⟩

/-- A required call leads to a bad value when it fails. -/
theorem reports_call {op : Call} (hop : op.required = true) {bad good : Except Nat Unit → Prop} :
    Reports bad good (call op) ↔ (∀ code, bad (.error code)) ∧ good (.ok ()) := by
  have herror : ∀ code, noticed ⟨.extra (.call op), (Except.error code : Except Nat Unit)⟩ = true :=
    fun _ => by simp [noticed, hop]
  have hok : ¬ noticed ⟨.extra (.call op), (Except.ok () : Except Nat Unit)⟩ = true := by
    simp [noticed]
  constructor
  · exact fun h => ⟨fun code => (h (.error code)).1 (herror code), (h (.ok ())).2 hok⟩
  · rintro ⟨hbad, hgood⟩ (code | ⟨⟩)
    · exact ⟨fun _ => hbad code, fun hgoes => absurd (herror code) hgoes⟩
    · exact ⟨fun hfailed => absurd hfailed hok, fun _ => hgood⟩

/-- A call that may fail leads to a good value either way. -/
theorem reports_call_optional {op : Call} (hop : op.required = false)
    {bad good : Except Nat Unit → Prop} :
    Reports bad good (call op) ↔ (∀ code, good (.error code)) ∧ good (.ok ()) := by
  have hfine : ∀ answer, ¬ noticed ⟨.extra (.call op), answer⟩ = true := fun _ => by
    simp [noticed, hop]
  constructor
  · exact fun h => ⟨fun code => (h (.error code)).2 (hfine _), (h (.ok ())).2 (hfine _)⟩
  · rintro ⟨herror, hok⟩ (code | ⟨⟩)
    · exact ⟨fun hfailed => absurd hfailed (hfine _), fun _ => herror code⟩
    · exact ⟨fun hfailed => absurd hfailed (hfine _), fun _ => hok⟩

/-- A required resource leads to a bad value when it is refused. -/
theorem reports_query {op : Query} (hop : op.required = true) {bad good : Bool → Prop} :
    Reports bad good (query op) ↔ bad false ∧ good true := by
  have hfalse : noticed ⟨.extra (.query op), false⟩ = true := by simp [noticed, hop]
  have htrue : ¬ noticed ⟨.extra (.query op), true⟩ = true := by simp [noticed]
  constructor
  · exact fun h => ⟨(h false).1 hfalse, (h true).2 htrue⟩
  · rintro ⟨hbad, hgood⟩ (_ | _)
    · exact ⟨fun _ => hbad, fun hgoes => absurd hfalse hgoes⟩
    · exact ⟨fun hfailed => absurd hfailed htrue, fun _ => hgood⟩

/-- A resource that may be refused leads to a good value either way. -/
theorem reports_query_optional {op : Query} (hop : op.required = false) {bad good : Bool → Prop} :
    Reports bad good (query op) ↔ good false ∧ good true := by
  have hfine : ∀ answer, ¬ noticed ⟨.extra (.query op), answer⟩ = true := fun _ => by
    simp [noticed, hop]
  constructor
  · exact fun h => ⟨(h false).2 (hfine _), (h true).2 (hfine _)⟩
  · rintro ⟨hfalse, htrue⟩ (_ | _)
    · exact ⟨fun hfailed => absurd hfailed (hfine _), fun _ => hfalse⟩
    · exact ⟨fun hfailed => absurd hfailed (hfine _), fun _ => htrue⟩

/-- The operation cannot fail. -/
def Safe (op : BusOp DriverOp) : Prop := ∀ answer, ¬ noticed ⟨op, answer⟩ = true

/-- Register accesses cannot fail. -/
theorem on_bus_safe : OnBus Safe := ⟨fun _ _ => nofun, fun _ _ _ => nofun, fun _ _ => nofun⟩

/-- A program without required requests never leads to a bad value. -/
theorem reports_of_safe {α : Type} {bad good : α → Prop} {program : DriverProgram α}
    (honly : program.Only Safe) (hyields : program.Yields good) : Reports bad good program :=
  Program.detects_of_only honly hyields

/-- A `BUG_ON` is no request. -/
theorem bug_safe : bug.Only Safe := ⟨fun _ => nofun, fun _ => trivial⟩

/-- Taking a mutex cannot fail. -/
theorem reports_mutex_lock {lock : Mutex} {bad good : Unit → Prop} (h : good ()) :
    Reports bad good (mutexLock lock) := fun _ => ⟨nofun, fun _ => h⟩

/-- Giving it back cannot fail, either. -/
theorem reports_mutex_unlock {lock : Mutex} {bad good : Unit → Prop} (h : good ()) :
    Reports bad good (mutexUnlock lock) := fun _ => ⟨nofun, fun _ => h⟩

/-- The stream code reports what it notices. -/
theorem reports_lift_board {α : Type} {bad good : α → Prop} {program : BoardProgram α}
    (h : Notices bad good program) : Reports bad good (liftBoard program) :=
  h.relabel fun op reply => by cases op <;> rfl

end Operations

/-! ## The functions of probe -/

/-- The error of a function that returns a device beside it. -/
abbrev ReportsError (program : DriverProgram (Int × Dev)) (caps : Caps) : Prop :=
  Reports (fun result => result.1 < 0) (fun result => result.1 = 0 ∧ result.2.caps = caps) program

/-- `saa7231_request_irq` fails if the line is not granted, and not with an unknown type. -/
theorem reports_request_irq (intType : BitVec 8) :
    Reports (fun result => result.1 < 0) (fun result => result.1 = 0) (requestIrq intType) := by
  have herror : ∀ left : BitVec 8, (-enodev, left).1 < 0 := fun _ => by simp [enodev]
  unfold requestIrq
  by_cases hmsi : intType = modeMsi ∨ intType = modeMsiX
  · simp only [hmsi, if_true, enableMsi, enodev]
    exact Program.detects_bind.mpr ((reports_call rfl).mpr ⟨fun _ => herror _, rfl⟩)
  · simp only [hmsi, if_false, ne_eq, not_true_eq_false]
    refine Program.detects_ite.mpr ⟨fun _ => ?_, fun _ => rfl⟩
    exact Program.detects_bind.mpr ((reports_call rfl).mpr ⟨fun _ => herror _, rfl⟩)

/-- Without the interrupt line `saa7231_pci_init` fails. -/
theorem reports_pci_interrupt (dev : Dev) : ReportsError (pciInterrupt dev) dev.caps := by
  refine Program.detects_bind.mpr ((reports_request_irq _).mono ?_ ?_)
  · rintro ⟨err, intType⟩ herr
    refine (Program.yields_ite _ _ _).mpr ⟨fun _ => ?_, fun hge => absurd herr hge⟩
    exact Program.yields_bind.mpr (Program.Yields.of_forall fun _ => by simp [enodev])
  · rintro ⟨_, intType⟩ rfl
    refine Program.detects_ite.mpr ⟨fun hlt => absurd hlt (lt_irrefl 0), fun _ => ?_⟩
    refine Program.detects_bind.mpr (reports_command.mpr ?_)
    refine reports_of_safe ⟨fun _ => nofun, fun _ => ⟨fun _ => nofun, fun _ => trivial⟩⟩ ?_
    exact Program.yields_bind.mpr (Program.Yields.of_forall fun _ => ⟨rfl, rfl⟩)

/-- Without memory for its state the clock unit fails. -/
theorem reports_cgu_init (config : DriverConfig) (dev : Dev) :
    ReportsError (cguInit config dev) dev.caps := by
  have hprogram : (cguProgram bug config.verbose config.rootClk).Only Safe :=
    only_cgu_program (fun _ => bug_safe) on_bus_safe.wr on_bus_safe.delay
      (fun _ _ => on_bus_safe.rd _) _
  unfold cguInit
  refine Program.detects_bind.mpr ((reports_query rfl).mpr ⟨by simp [enomem], ?_⟩)
  refine reports_of_safe (Program.Only.bind hprogram fun _ => trivial) ?_
  exact Program.yields_bind.mpr (Program.Yields.of_forall fun _ => ⟨rfl, rfl⟩)

/-- A master fails if its adapter cannot be added. -/
theorem reports_i2c_add (config : DriverConfig) (i : Nat) :
    Reports (fun err => err < 0) (fun err => err = 0) (i2cAdd config i) := by
  unfold i2cAdd
  refine Program.detects_bind.mpr (reports_command.mpr ?_)
  refine Program.detects_bind.mpr
    ((reports_call rfl).mpr ⟨fun code => Int.negSucc_lt_zero code, ?_⟩)
  refine Program.detects_bind.mpr (reports_command.mpr ?_)
  refine reports_of_safe (Program.Only.bind (only_hwinit (upkeep_of_on_bus on_bus_safe)) fun _ => trivial) ?_
  exact Program.yields_bind.mpr (Program.Yields.of_forall fun _ => rfl)

/-- The masters stop at the first that fails. -/
theorem reports_i2c_add_all (config : DriverConfig) (n i : Nat) :
    Reports (fun err => err < 0) (fun err => err = 0) (i2cAddAll config i n) := by
  induction n generalizing i with
  | zero => rfl
  | succ n ih =>
      refine Program.detects_bind.mpr ((reports_i2c_add config i).mono ?_ ?_)
      · intro err herr
        exact (Program.yields_ite _ _ _).mpr ⟨fun _ => herr, fun hge => absurd herr hge⟩
      · rintro _ rfl
        exact Program.detects_ite.mpr ⟨fun hlt => absurd hlt (lt_irrefl 0), fun _ => ih (i + 1)⟩

/-- `saa7231_i2c_init` passes the error on. -/
theorem reports_i2c_init (config : DriverConfig) :
    Reports (fun err => err < 0) (fun err => err = 0) (i2cInit config) := by
  unfold i2cInit
  refine Program.detects_bind.mpr (reports_mutex_lock ?_)
  refine Program.detects_bind.mpr ((reports_query rfl).mpr ⟨?_, ?_⟩)
  · exact Program.yields_bind.mpr (Program.Yields.of_forall fun _ => by simp [enomem])
  · refine Program.detects_bind.mpr ((reports_i2c_add_all config _ 0).mono ?_ ?_)
    · intro err herr
      exact Program.yields_bind.mpr (Program.Yields.of_forall fun _ => herr)
    · rintro _ rfl
      exact Program.detects_bind.mpr (reports_mutex_unlock rfl)

/-- The start of the processor requests nothing. -/
theorem bsl_autoload_safe (config : DriverConfig) : (bslAutoload config).Only Safe := by
  have hcommand : ∀ op, Safe (.extra (.command op)) := fun _ _ => nofun
  simp [bslAutoload, rd_bind_only, rd_only, delay_bind_only, hcommand, on_bus_safe.rd,
    on_bus_safe.delay]

/-- Neither do the DMA channels. -/
theorem if_init_safe : ifInit.Only Safe :=
  Program.Only.bind (Program.Only.loop (fun _ _ _ => wr_only.mpr (on_bus_safe.wr _ _)) ())
    fun _ => trivial

/-- The files are not required. -/
theorem create_files_safe (attrs : List DevAttr) : (createFiles attrs).Only Safe := by
  have hcall : ∀ attr, Safe (.extra (.call (.deviceCreateFile attr))) := fun _ _ => nofun
  induction attrs with
  | nil => trivial
  | cons attr rest ih => simp [createFiles, hcall, ih]

/-! ### DVB adapters -/

/-- Each of the registrations of a demux is required. -/
theorem reports_dvb_register_demux (i : Nat) :
    Reports (fun ret => ret < 0) (fun ret => ret = 0) (dvbRegisterDemux i) := by
  have hundo : ∀ (undo : DriverProgram Unit) (code : Nat),
      (undo >>= fun _ => pure (Int.negSucc code)).Yields fun ret : Int => ret < 0 :=
    fun _ code => Program.yields_bind.mpr (Program.Yields.of_forall fun _ =>
      Int.negSucc_lt_zero code)
  unfold dvbRegisterDemux
  refine Program.detects_bind.mpr ((reports_call rfl).mpr ⟨fun _ => by simp [enodev], ?_⟩)
  refine Program.detects_bind.mpr ((reports_call rfl).mpr ⟨fun _ => hundo _ _, ?_⟩)
  refine Program.detects_bind.mpr ((reports_call rfl).mpr ⟨fun _ => hundo _ _, ?_⟩)
  refine Program.detects_bind.mpr ((reports_call rfl).mpr ⟨fun _ => hundo _ _, ?_⟩)
  refine Program.detects_bind.mpr ((reports_call rfl).mpr ⟨fun _ => hundo _ _, ?_⟩)
  refine Program.detects_bind.mpr ((reports_call rfl).mpr ⟨fun _ => hundo _ _, ?_⟩)
  exact Program.detects_bind.mpr ((reports_call_optional rfl).mpr ⟨fun _ => rfl, rfl⟩)

/-- A frontend that is attached has to be registered; an adapter without one is fine. -/
theorem reports_dvb_register_fe (config : DriverConfig) (i : Nat) :
    Reports (fun result => result.1 < 0) (fun result => result.1 = 0) (dvbRegisterFe config i) := by
  unfold dvbRegisterFe
  refine Program.detects_ite.mpr ⟨fun _ => rfl, fun _ => ?_⟩
  refine Program.detects_bind.mpr ((reports_query_optional rfl).mpr ⟨rfl, ?_⟩)
  refine Program.detects_bind.mpr ((reports_call rfl).mpr ⟨fun code => ?_, rfl⟩)
  exact Program.yields_bind.mpr (Program.Yields.of_forall fun _ => Int.negSucc_lt_zero code)

/-- An adapter fails without its stream. -/
theorem reports_dvb_register_stream (config : DriverConfig) {i : Nat} (hi : i < 2) (dev : Dev) :
    ReportsError (dvbRegisterStream config i dev) dev.caps := by
  refine Program.detects_bind.mpr ((reports_lift_board (notices_stream_init _ _ _ hi)).mono ?_ ?_)
  · rintro _ rfl
    exact (by decide : -enomem < 0)
  · rintro _ hstream
    obtain ⟨stream, rfl⟩ := Option.isSome_iff_exists.mp hstream
    refine Program.detects_bind.mpr (reports_command.mpr ?_)
    refine Program.detects_bind.mpr (reports_command.mpr ?_)
    refine reports_of_safe ?_ ?_
    · exact Program.Only.bind (only_add_event on_bus_safe _ _ _ fun _ => bug_safe) fun _ => trivial
    · exact Program.yields_bind.mpr (Program.Yields.of_forall fun _ => ⟨rfl, rfl⟩)

/-- The registrations of one of the first two adapters pass their errors on. -/
theorem reports_dvb_register (config : DriverConfig) {i : Nat} (hi : i < 2) (dev : Dev) :
    ReportsError (dvbRegister config i dev) dev.caps := by
  refine Program.detects_bind.mpr ((reports_dvb_register_demux i).mono ?_ ?_)
  · intro ret hret
    exact (Program.yields_ite _ _ _).mpr ⟨fun _ => hret, fun hge => absurd hret hge⟩
  · rintro _ rfl
    refine Program.detects_ite.mpr ⟨fun hlt => absurd hlt (lt_irrefl 0), fun _ => ?_⟩
    refine Program.detects_bind.mpr (reports_command.mpr ?_)
    refine Program.detects_bind.mpr ((reports_dvb_register_fe config i).mono ?_ ?_)
    · rintro ⟨ret, fe⟩ hret
      exact (Program.yields_ite _ _ _).mpr ⟨fun _ => hret, fun hge => absurd hret hge⟩
    · rintro ⟨_, fe⟩ rfl
      refine Program.detects_ite.mpr ⟨fun hlt => absurd hlt (lt_irrefl 0), fun _ => ?_⟩
      exact reports_dvb_register_stream config hi _

/-- The adapters stop at the first that fails. -/
theorem reports_dvb_register_all (config : DriverConfig) {n i : Nat} (hn : i + n ≤ 2) (dev : Dev) :
    ReportsError (dvbRegisterAll config i n dev) dev.caps := by
  induction n generalizing i dev with
  | zero => exact ⟨rfl, rfl⟩
  | succ n ih =>
      refine Program.detects_bind.mpr ((reports_dvb_register config (by omega) dev).mono ?_ ?_)
      · rintro ⟨ret, registered⟩ hret
        exact (Program.yields_ite _ _ _).mpr ⟨fun _ => hret, fun hge => absurd hret hge⟩
      · rintro ⟨_, registered⟩ ⟨rfl, hcaps⟩
        refine Program.detects_ite.mpr ⟨fun hlt => absurd hlt (lt_irrefl 0), fun _ => ?_⟩
        exact hcaps ▸ ih (by omega) registered

/-- With at most two adapters the initialisation of the adapters reports what fails. -/
theorem reports_dvb_init (config : DriverConfig) (dev : Dev)
    (hadapters : (config.adapters dev.caps).toNat ≤ 2) :
    ReportsError (dvbInit config dev) dev.caps := by
  have hall : ReportsError (dvbRegisterAll config 0 (config.adapters dev.caps).toNat
      { dev with adapters := config.adapters dev.caps }) dev.caps :=
    reports_dvb_register_all config (by omega) _
  refine Program.detects_bind.mpr ((reports_query rfl).mpr ⟨by simp [enomem], ?_⟩)
  cases henable : config.frontendEnable with
  | false => simpa [henable] using hall
  | true =>
      simp only [Bool.not_true, Bool.false_eq_true, if_false, if_true]
      exact Program.detects_bind.mpr (reports_command.mpr hall)

/-! ## More adapters than streams -/

/-- The streaming code returns the same values inside the driver. -/
theorem lift_board_yields {α : Type} {Q : α → Prop} {program : BoardProgram α}
    (h : program.Yields Q) : (liftBoard program).Yields Q := h.relabel

/-- From the third on an adapter gets no stream, and so fails. -/
theorem dvb_register_fails (config : DriverConfig) {i : Nat} (hi : 2 ≤ i) (dev : Dev) :
    (dvbRegister config i dev).Yields fun result => result.1 < 0 := by
  refine Program.yields_bind.mpr (Program.Yields.of_forall fun ret => ?_)
  refine (Program.yields_ite _ _ _).mpr ⟨fun hret => hret, fun _ => ?_⟩
  refine Program.yields_bind.mpr (Program.Yields.of_forall fun _ => ?_)
  refine Program.yields_bind.mpr (Program.Yields.of_forall fun registered => ?_)
  refine (Program.yields_ite _ _ _).mpr ⟨fun hret => hret, fun _ => ?_⟩
  refine Program.yields_bind.mpr ((lift_board_yields (stream_init_third _ _ _ hi)).mono ?_)
  rintro _ rfl
  exact (by decide : -enomem < 0)

/-- A third adapter stops the registrations. -/
theorem dvb_register_all_fails (config : DriverConfig) {n i : Nat} (hi : i ≤ 2) (hn : 2 < i + n)
    (dev : Dev) : (dvbRegisterAll config i n dev).Yields fun result => result.1 < 0 := by
  induction n generalizing i dev with
  | zero => exact absurd hn (by omega)
  | succ n ih =>
      by_cases hlast : i = 2
      · refine Program.yields_bind.mpr ((dvb_register_fails config (by omega) dev).mono ?_)
        rintro ⟨ret, registered⟩ hret
        exact (Program.yields_ite _ _ _).mpr ⟨fun _ => hret, fun hge => absurd hret hge⟩
      · refine Program.yields_bind.mpr (Program.Yields.of_forall fun registered => ?_)
        exact (Program.yields_ite _ _ _).mpr
          ⟨fun hret => hret, fun _ => ih (by omega) (by omega) _⟩

/-- `saa7231_dvb_init` fails for more than two adapters. -/
theorem dvb_init_fails (config : DriverConfig) (dev : Dev)
    (hadapters : 2 < (config.adapters dev.caps).toNat) :
    (dvbInit config dev).Yields fun result => result.1 < 0 := by
  have hall : (dvbRegisterAll config 0 (config.adapters dev.caps).toNat
      { dev with adapters := config.adapters dev.caps }).Yields fun result => result.1 < 0 :=
    dvb_register_all_fails config (by omega) (by omega) _
  refine Program.yields_bind.mpr (Program.Yields.of_forall fun granted => ?_)
  refine (Program.yields_ite _ _ _).mpr ⟨fun _ => by simp [enomem], fun _ => ?_⟩
  refine (Program.yields_ite _ _ _).mpr ⟨fun _ => ?_, fun _ => hall⟩
  exact Program.yields_bind.mpr (Program.Yields.of_forall fun _ => hall)

/-! ## The end of probe -/

/-- The end of probe, from the I2C masters on, reports what fails, if there are at most two
adapters. -/
theorem reports_probe_inputs (config : DriverConfig) (dev : Dev)
    (hadapters : (config.adapters dev.caps).toNat ≤ 2) :
    ReportsError (probeInputs config dev) dev.caps := by
  have hundo : ∀ (undo : DriverProgram Unit) {err : Int} (dev : Dev), err < 0 →
      (undo >>= fun _ => pure (err, dev)).Yields fun result => result.1 < 0 :=
    fun _ _ _ herr => Program.yields_bind.mpr (Program.Yields.of_forall fun _ => herr)
  refine Program.detects_bind.mpr ((reports_i2c_init config).mono ?_ ?_)
  · intro err herr
    exact (Program.yields_ite _ _ _).mpr ⟨fun _ => hundo _ _ herr, fun hzero => absurd herr
      (by simp_all)⟩
  · rintro _ rfl
    refine Program.detects_ite.mpr ⟨fun hne => absurd rfl hne, fun _ => ?_⟩
    refine Program.detects_bind.mpr (reports_of_safe (bsl_autoload_safe config) ?_)
    refine Program.Yields.of_forall fun _ => ?_
    refine Program.detects_bind.mpr (reports_of_safe if_init_safe ?_)
    refine Program.yields_bind.mpr (Program.Yields.of_forall fun _ => ?_)
    refine Program.detects_ite.mpr ⟨fun hne => absurd rfl hne, fun _ => ?_⟩
    refine Program.detects_bind.mpr ((reports_dvb_init config dev hadapters).mono ?_ ?_)
    · rintro ⟨err, inited⟩ herr
      exact (Program.yields_ite _ _ _).mpr ⟨fun _ => hundo _ _ herr, fun hzero => absurd herr
        (by simp_all)⟩
    · rintro ⟨_, inited⟩ ⟨rfl, hcaps⟩
      refine Program.detects_ite.mpr ⟨fun hne => absurd rfl hne, fun _ => ?_⟩
      refine reports_of_safe (Program.Only.bind (create_files_safe _) fun _ => trivial) ?_
      exact Program.yields_bind.mpr (Program.Yields.of_forall fun _ => ⟨rfl, hcaps⟩)

/-- So does the part of probe that registers them. -/
theorem probe_inputs_fails (config : DriverConfig) (dev : Dev)
    (hadapters : 2 < (config.adapters dev.caps).toNat) :
    (probeInputs config dev).Yields fun result => result.1 ≠ 0 := by
  have hundo : ∀ (undo : DriverProgram Unit) {err : Int} (dev : Dev), err ≠ 0 →
      (undo >>= fun _ => pure (err, dev)).Yields fun result => result.1 ≠ 0 :=
    fun _ _ _ herr => Program.yields_bind.mpr (Program.Yields.of_forall fun _ => herr)
  refine Program.yields_bind.mpr (Program.Yields.of_forall fun err => ?_)
  refine (Program.yields_ite _ _ _).mpr ⟨fun herr => hundo _ _ herr, fun _ => ?_⟩
  refine Program.yields_bind.mpr (Program.Yields.of_forall fun _ => ?_)
  refine Program.yields_bind.mpr (Program.Yields.of_forall fun err => ?_)
  refine (Program.yields_ite _ _ _).mpr ⟨fun herr => hundo _ _ herr, fun _ => ?_⟩
  refine Program.yields_bind.mpr ((dvb_init_fails config dev hadapters).mono ?_)
  rintro ⟨err, inited⟩ herr
  refine (Program.yields_ite _ _ _).mpr ⟨fun hne => hundo _ _ hne, fun hzero => absurd herr ?_⟩
  simp_all

end Driver

end Saa7231
