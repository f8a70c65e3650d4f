import Saa7231.Driver.PciMapping

/-!
# What a successful probe gains

While everything succeeds the driver gives nothing back (`Keeping`): the functions without an error
path release nothing, and the others only on theirs. So what a function acquires on the way to
success is held at the end.
-/

namespace Saa7231

open Interaction Bus Program

/-! ## Roles and resources -/

/-- The subsystem that a resource belongs to, and none for the resources of the stream code. -/
def DriverResource.subsystem : DriverResource → Option Subsystem
  | .board _ => none
  | .memory allocation => some allocation.subsystem
  | .pciDevice | .region _ | .mapping _ => some .pci
  | .irq => some .irq
  | .i2cAdapter i => some (.master i)
  | .dvbAdapter i | .dvbDmx i | .dvbDmxdev i | .dmxFrontend i _ | .dvbNet i | .frontend i
  | .dvbFrontend i => some (.adapter i)
  | .deviceFile _ => some .files

/-- A command releases a resource of its own subsystem. -/
theorem Command.releases_own {op : Command} {resource : DriverResource}
    (h : op.resource = some resource) :
    ∃ subsystem, resource.subsystem = some subsystem ∧ op.role = .release subsystem := by
  cases op <;> first | (cases h; exact ⟨_, rfl, rfl⟩) | cases h

/-- A call acquires one of its own subsystem. -/
theorem Call.acquires_own {op : Call} {resource : DriverResource}
    (h : op.resource = some resource) :
    ∃ subsystem, resource.subsystem = some subsystem ∧ op.role = .request subsystem := by
  cases op <;> first | (cases h; exact ⟨_, rfl, rfl⟩) | cases h

/-- So does a request. -/
theorem Query.acquires_own {op : Query} {resource : DriverResource}
    (h : op.resource = some resource) :
    ∃ subsystem, resource.subsystem = some subsystem ∧ op.role = .request subsystem := by
  cases op <;> first | (cases h; exact ⟨_, rfl, rfl⟩) | cases h

namespace Driver

variable {config : DriverConfig} {steps rest : List DriverStep} {dev : Dev}

/-- Nothing is released but buffers of the streams. -/
def Keeping (steps : List DriverStep) : Prop :=
  ∀ resource ∈ driverTenure.releases steps, ∃ buffer, resource = .board buffer

/-- Steps that keep what they acquire can be joined. -/
theorem Keeping.append (h : Keeping steps) (hrest : Keeping rest) : Keeping (steps ++ rest) := by
  intro resource hresource
  rw [Tenure.releases_append] at hresource
  exact (List.mem_append.mp hresource).elim (h resource) (hrest resource)

/-- Steps that release nothing keep everything. -/
theorem keeping_of_nil (h : driverTenure.releases steps = []) : Keeping steps := by
  intro resource hresource
  rw [h] at hresource
  exact absurd hresource List.not_mem_nil

/-- No steps at all. -/
theorem keeping_nil : Keeping [] := keeping_of_nil rfl

/-- A request in front of them. -/
theorem Keeping.query {op : Query} {answer : Bool} (h : Keeping steps) :
    Keeping (⟨.extra (.query op), answer⟩ :: steps) := by
  intro resource hresource
  rw [releases_query] at hresource
  exact h resource hresource

/-- A command that releases nothing. -/
theorem Keeping.command {op : Command} (hop : op.resource = none) (h : Keeping steps) :
    Keeping (⟨.extra (.command op), ()⟩ :: steps) := by
  intro resource hresource
  rw [releases_command, hop] at hresource
  exact h resource hresource

/-! ## What the roles allow -/

/-- Roles that release nothing. -/
def NoRelease (role : Role) : Prop := ∀ subsystem, role ≠ .release subsystem

/-- Steps whose roles release nothing. -/
theorem keeping_of_within (h : ∀ step ∈ steps, Within NoRelease step.1) : Keeping steps := by
  intro resource hresource
  obtain ⟨⟨op, answer⟩, hstep, hreleased⟩ := List.mem_filterMap.mp hresource
  cases op with
  | rd | wr | delay => cases hreleased
  | extra op =>
      cases op with
      | board op =>
          obtain ⟨buffer, -, rfl⟩ := Option.map_eq_some_iff.mp hreleased
          exact ⟨buffer, rfl⟩
      | command op =>
          obtain ⟨subsystem, -, hrole⟩ := Command.releases_own hreleased
          exact absurd hrole (within_command.mp (h _ hstep) subsystem)
      | _ => cases hreleased

section Own

variable {subsystem : Subsystem} {resource : DriverResource}
  (hresource : resource.subsystem = some subsystem)

include hresource

/-- A resource is acquired by a request of its subsystem. -/
theorem not_acquired (h : ∀ step ∈ steps, Within (· ≠ .request subsystem) step.1) :
    resource ∉ driverTenure.acquired steps := by
  intro hacquired
  obtain ⟨⟨op, answer⟩, hstep, hgranted⟩ := List.mem_filterMap.mp hacquired
  cases op with
  | rd | wr | delay => cases hgranted
  | extra op =>
      cases op with
      | board op =>
          obtain ⟨buffer, -, rfl⟩ := Option.map_eq_some_iff.mp hgranted
          cases hresource
      | call op =>
          have hop : op.resource = some resource := by
            rcases answer with code | ⟨⟩
            · cases hgranted
            · exact hgranted
          obtain ⟨own, hown, hrole⟩ := Call.acquires_own hop
          obtain rfl := Option.some.inj (hown.symm.trans hresource)
          exact within_call.mp (h _ hstep) hrole
      | query op =>
          have hop : op.resource = some resource := by
            cases answer
            · cases hgranted
            · exact hgranted
          obtain ⟨own, hown, hrole⟩ := Query.acquires_own hop
          obtain rfl := Option.some.inj (hown.symm.trans hresource)
          exact within_query.mp (h _ hstep) hrole
      | _ => cases hgranted

/-- A resource is released by a release of its subsystem. -/
theorem not_released (h : ∀ step ∈ steps, Within (· ≠ .release subsystem) step.1) :
    resource ∉ driverTenure.releases steps := by
  refine Tenure.not_mem_releases fun ⟨op, answer⟩ hstep hreleased => ?_
  cases op with
  | rd | wr | delay => cases hreleased
  | extra op =>
      cases op with
      | board op =>
          obtain ⟨buffer, -, rfl⟩ := Option.map_eq_some_iff.mp hreleased
          cases hresource
      | command op =>
          obtain ⟨own, hown, hrole⟩ := Command.releases_own hreleased
          obtain rfl := Option.some.inj (hown.symm.trans hresource)
          exact within_command.mp (h _ hstep) hrole
      | _ => cases hreleased

end Own

/-- The early requests have the roles of `saa7231_pci_init`. -/
theorem not_early {op : BusOp DriverOp}
    (h : Within (fun role => role ≠ .request .pci ∧ role ≠ .request .msix) op) :
    ¬ early op = true := by
  intro hearly
  cases op with
  | rd | wr | delay => cases hearly
  | extra op =>
      cases op with
      | call op =>
          have hrole := within_call.mp h
          cases op <;> first | exact hrole.1 rfl | cases hearly
      | query op =>
          have hrole := within_query.mp h
          cases op with
          | kzalloc memory =>
              cases memory <;> first | exact hrole.1 rfl | exact hrole.2 rfl | cases hearly
          | frontendAttach => cases hearly
          | _ => exact hrole.1 rfl
      | _ => cases hearly

/-! ## The functions of probe -/

/-- A program that releases nothing of the driver. -/
theorem keeping_traces {α : Type} {program : DriverProgram α}
    (honly : program.Only (Within NoRelease)) : program.Traces fun _ steps => Keeping steps :=
  honly.traces.mono fun _ _ h => keeping_of_within h

/-- A request is no release. -/
theorem no_release_request (subsystem : Subsystem) : NoRelease (.request subsystem) :=
  fun _ => nofun

/-- Neither is an update. -/
theorem no_release_update (subsystem : Subsystem) : NoRelease (.update subsystem) :=
  fun _ => nofun

/-- Nor is a hazard. -/
theorem no_release_hazard : NoRelease .hazard := fun _ => nofun

/-- The types of interrupt that `saa7231_request_irq` knows. -/
def knownIntType (intType : BitVec 8) : Bool :=
  intType = modeInta ∨ intType = modeMsi ∨ intType = modeMsiX

/-- The line is acquired for the known types. -/
theorem request_irq_gains (intType : BitVec 8) :
    (requestIrq intType).Traces fun result steps => Keeping steps ∧ (result.1 < 0 ∨
      (result.1 = 0 ∧ (.irq ∈ driverTenure.acquired steps ↔ knownIntType intType = true))) := by
  have hkept : (requestIrq intType).Only (Within NoRelease) := by
    simp [requestIrq, no_release_request]
  refine (keeping_traces hkept).and ?_
  have herror : ∀ left : BitVec 8, (-enodev, left).1 < 0 := fun _ => by simp [enodev]
  have hgranted : knownIntType intType = true → (.irq ∈ driverTenure.acquired
      [(⟨.extra (.call .requestIrq), (.ok () : Except Nat Unit)⟩ : DriverStep)] ↔
        knownIntType intType = true) := fun hknown => by simp [Call.resource, hknown]
  unfold requestIrq
  by_cases hmsi : intType = modeMsi ∨ intType = modeMsiX
  · have hne : ¬ enableMsi = 0 := by decide
    have hknown : knownIntType intType = true := by simp [knownIntType, hmsi]
    simp only [hmsi, if_true, hne, ne_eq, not_false_eq_true]
    exact traces_call_bind.mpr ⟨fun code => Or.inl (herror _), Or.inr ⟨rfl, hgranted hknown⟩⟩
  · simp only [hmsi, if_false, ne_eq, not_true_eq_false]
    refine traces_ite.mpr ⟨fun hinta => ?_, fun hunknown => ?_⟩
    · have hknown : knownIntType intType = true := by simp [knownIntType, hinta]
      exact traces_call_bind.mpr ⟨fun code => Or.inl (herror _), Or.inr ⟨rfl, hgranted hknown⟩⟩
    · exact Or.inr ⟨rfl, by simp [knownIntType, hmsi, hunknown]⟩

/-- The interrupt is installed for the known types. -/
theorem pci_interrupt_gains (dev : Dev) : (pciInterrupt dev).Traces fun result steps =>
    result.1 = 0 → Keeping steps ∧
      (.irq ∈ driverTenure.acquired steps ↔ knownIntType dev.intType = true) := by
  refine traces_bind.mpr ((request_irq_gains dev.intType).mono ?_)
  rintro ⟨err, left⟩ steps ⟨hkept, hirq⟩
  refine traces_ite.mpr ⟨fun _ => ?_, fun hge => ?_⟩
  · refine Traces.mono (Yields.traces (P := fun result => result.1 < 0) ?_)
      fun _ _ hlt hzero => absurd hzero hlt.ne
    exact yields_bind.mpr (Yields.of_forall fun _ => by simp [enodev])
  · refine traces_command_bind.mpr fun config reg _ => ⟨?_, ?_⟩
    · exact hkept.append (keeping_of_nil rfl)
    · rw [Tenure.acquired_append]
      show .irq ∈ driverTenure.acquired steps ++ [] ↔ _
      rw [List.append_nil]
      exact (hirq.resolve_left hge).2

/-! ### I2C masters -/

/-- A master that does not fail has its adapter. -/
theorem i2c_add_gains (config : DriverConfig) (i : Nat) :
    (i2cAdd config i).Traces fun err steps =>
      err < 0 ∨ .i2cAdapter i ∈ driverTenure.acquired steps := by
  refine traces_command_bind.mpr (traces_call_bind.mpr ⟨fun code => ?_, ?_⟩)
  · exact Or.inl (Int.negSucc_lt_zero code)
  · exact (Yields.traces (P := fun _ => True) (Yields.of_forall fun _ => trivial)).mono
      fun _ _ _ => Or.inr (by simp [Call.resource])

/-- If none fails all masters have theirs. -/
theorem i2c_add_all_gains (config : DriverConfig) (n i : Nat) :
    (i2cAddAll config i n).Traces fun err steps => err = 0 →
      ∀ k, i ≤ k → k < i + n → .i2cAdapter k ∈ driverTenure.acquired steps := by
  induction n generalizing i with
  | zero => exact fun _ k hle hlt => absurd hlt (by omega)
  | succ n ih =>
      refine traces_bind.mpr ((i2c_add_gains config i).mono fun err steps hadded => ?_)
      refine traces_ite.mpr ⟨fun herr hzero => absurd herr (by simp [hzero]), fun hge => ?_⟩
      refine (ih (i + 1)).mono fun err' rest hrest hzero k hle hlt => ?_
      rw [Tenure.acquired_append]
      by_cases hfirst : k = i
      · exact hfirst ▸ List.mem_append_left _ (hadded.resolve_left hge)
      · exact List.mem_append_right _ (hrest hzero k (by omega) (by omega))

/-- Every master is registered. -/
theorem i2c_init_gains (config : DriverConfig) : (i2cInit config).Traces fun err steps =>
    Keeping steps ∧ (err = 0 →
      ∀ i < saa7231I2cAdapters, .i2cAdapter i ∈ driverTenure.acquired steps) := by
  refine (keeping_traces (only_i2c_init (no_release_request _) (fun _ => no_release_request _)
    (fun _ => no_release_update _) config)).and ?_
  refine fun _ => traces_query_bind.mpr ⟨?_, ?_⟩
  · exact fun _ hzero => absurd hzero (by decide)
  · refine traces_bind.mpr ((i2c_add_all_gains config saa7231I2cAdapters 0).mono ?_)
    intro err steps hadded _ hzero i hi
    have hmem := hadded hzero i i.zero_le ((Nat.zero_add saa7231I2cAdapters).symm ▸ hi)
    exact Tenure.acquired_mono hmem fun step hstep => List.mem_cons_of_mem _
      (List.mem_cons_of_mem _ (List.mem_append_left _ hstep))

/-! ### DVB adapters -/

/-- What an adapter registers with the DVB core. -/
def adapterResources (i : Nat) : List DriverResource :=
  [.dvbAdapter i, .dvbDmx i, .dvbDmxdev i, .dmxFrontend i .hw, .dmxFrontend i .mem]

/-- A demux that does not fail has everything that belongs to it. -/
theorem dvb_register_demux_gains (i : Nat) : (dvbRegisterDemux i).Traces fun ret steps =>
    ret < 0 ∨ (Keeping steps ∧ ∀ resource ∈ adapterResources i,
      resource ∈ driverTenure.acquired steps) := by
  have hundo : ∀ (undo : DriverProgram Unit) (code : Nat) (Q : List DriverStep → Prop),
      (undo >>= fun _ => pure (Int.negSucc code)).Traces fun ret steps => ret < 0 ∨ Q steps := by
    intro undo code Q
    have hret : (undo >>= fun _ => pure (Int.negSucc code)).Yields fun ret : Int => ret < 0 :=
      yields_bind.mpr (Yields.of_forall fun _ => Int.negSucc_lt_zero code)
    exact hret.traces.mono fun _ _ => Or.inl
  unfold dvbRegisterDemux
  refine traces_call_bind.mpr ⟨fun _ => Or.inl (by decide), ?_⟩
  refine traces_call_bind.mpr ⟨fun code => hundo _ code _, ?_⟩
  refine traces_call_bind.mpr ⟨fun code => hundo _ code _, ?_⟩
  refine traces_call_bind.mpr ⟨fun code => hundo _ code _, ?_⟩
  refine traces_call_bind.mpr ⟨fun code => hundo _ code _, ?_⟩
  refine traces_call_bind.mpr ⟨fun code => hundo _ code _, ?_⟩
  refine traces_call_bind.mpr ⟨fun code => Or.inr ⟨keeping_of_nil rfl, ?_⟩,
    Or.inr ⟨keeping_of_nil rfl, ?_⟩⟩ <;> simp [adapterResources, Call.resource]

/-- The frontend gives nothing of that back. -/
theorem dvb_register_fe_gains (config : DriverConfig) (i : Nat) :
    (dvbRegisterFe config i).Traces fun result steps => result.1 < 0 ∨ Keeping steps := by
  unfold dvbRegisterFe
  refine traces_ite.mpr ⟨fun _ => Or.inr keeping_nil, fun _ => ?_⟩
  refine traces_query_bind.mpr ⟨Or.inr (keeping_of_nil rfl), ?_⟩
  refine traces_call_bind.mpr ⟨fun code => ?_, Or.inr (keeping_of_nil rfl)⟩
  have hret : (dvbErr4 i >>= fun _ => pure (Int.negSucc code, true)).Yields
      fun result : Int × Bool => result.1 < 0 :=
    yields_bind.mpr (Yields.of_forall fun _ => Int.negSucc_lt_zero code)
  exact hret.traces.mono fun _ _ => Or.inl

/-- An adapter that is registered has its resources. -/
theorem dvb_register_gains (config : DriverConfig) (i : Nat) (dev : Dev) :
    (dvbRegister config i dev).Traces fun result steps => result.1 < 0 ∨ (Keeping steps ∧
      ∀ resource ∈ adapterResources i, resource ∈ driverTenure.acquired steps) := by
  refine traces_bind.mpr ((dvb_register_demux_gains i).mono fun ret steps hdemux => ?_)
  refine traces_ite.mpr ⟨fun hret => Or.inl hret, fun hge => ?_⟩
  obtain ⟨hkept, hacquired⟩ := hdemux.resolve_left hge
  refine traces_command_bind.mpr (traces_bind.mpr ((dvb_register_fe_gains config i).mono ?_))
  rintro ⟨ret, fe⟩ frontend hfe
  refine traces_ite.mpr ⟨fun hret => Or.inl hret, fun hge => ?_⟩
  have hstream := fun dev => keeping_traces
    (only_dvb_register_stream (i := i) (no_release_update _) no_release_hazard config dev)
  refine (hstream _).mono fun result registered hregistered => Or.inr ⟨?_, ?_⟩
  · exact hkept.append (((hfe.resolve_left hge).append hregistered).command rfl)
  · exact fun resource hresource => Tenure.acquired_mono (hacquired resource hresource)
      fun step hstep => List.mem_append_left _ hstep

/-- If none fails all adapters have theirs. -/
theorem dvb_register_all_gains (config : DriverConfig) (n i : Nat) (dev : Dev) :
    (dvbRegisterAll config i n dev).Traces fun result steps => result.1 = 0 →
      Keeping steps ∧ ∀ k, i ≤ k → k < i + n → ∀ resource ∈ adapterResources k,
        resource ∈ driverTenure.acquired steps := by
  induction n generalizing i dev with
  | zero => exact fun _ => ⟨keeping_nil, fun k hle hlt => absurd hlt (by omega)⟩
  | succ n ih =>
      refine traces_bind.mpr ((dvb_register_gains config i dev).mono ?_)
      rintro ⟨ret, registered⟩ steps hregistered
      refine traces_ite.mpr ⟨fun hret hzero => absurd hret (by simp_all), fun hge => ?_⟩
      obtain ⟨hkept, hacquired⟩ := hregistered.resolve_left hge
      refine (ih (i + 1) registered).mono fun result rest hrest hzero => ?_
      obtain ⟨hrestKept, hrestAcquired⟩ := hrest hzero
      refine ⟨hkept.append hrestKept, fun k hle hlt resource hresource => ?_⟩
      rw [Tenure.acquired_append]
      by_cases hfirst : k = i
      · subst hfirst
        exact List.mem_append_left _ (hacquired resource hresource)
      · exact List.mem_append_right _ (hrestAcquired k (by omega) (by omega) resource hresource)

/-- Every adapter is registered. -/
theorem dvb_init_gains (config : DriverConfig) (dev : Dev) :
    (dvbInit config dev).Traces fun result steps => result.1 = 0 → Keeping steps ∧
      ∀ i < (config.adapters dev.caps).toNat, ∀ resource ∈ adapterResources i,
        resource ∈ driverTenure.acquired steps := by
  have hall := dvb_register_all_gains config (config.adapters dev.caps).toNat 0
    { dev with adapters := config.adapters dev.caps }
  refine traces_query_bind.mpr ⟨fun hzero => absurd hzero (by simp [enomem]), ?_⟩
  cases henable : config.frontendEnable with
  | false =>
      refine hall.mono fun result steps hregistered hzero => ?_
      obtain ⟨hkept, hacquired⟩ := hregistered hzero
      refine ⟨Keeping.query hkept, fun i hi resource hresource => ?_⟩
      exact Tenure.acquired_mono (hacquired i i.zero_le (by omega) resource hresource)
        fun step hstep => List.mem_cons_of_mem _ hstep
  | true =>
      refine traces_command_bind.mpr (hall.mono fun result steps hregistered hzero => ?_)
      obtain ⟨hkept, hacquired⟩ := hregistered hzero
      refine ⟨Keeping.query (Keeping.command rfl hkept), fun i hi resource hresource => ?_⟩
      exact Tenure.acquired_mono (hacquired i i.zero_le (by omega) resource hresource)
        fun step hstep => List.mem_cons_of_mem _ (List.mem_cons_of_mem _ hstep)

/-! ### Probe -/

/-- The masters and the adapters are registered, and nothing was given back. -/
structure Registered (config : DriverConfig) (caps : Caps) (steps : List DriverStep) : Prop where
  kept : Keeping steps
  masters : ∀ i < saa7231I2cAdapters, .i2cAdapter i ∈ driverTenure.acquired steps
  adapters : ∀ i < (config.adapters caps).toNat, ∀ resource ∈ adapterResources i,
    resource ∈ driverTenure.acquired steps

/-- Earlier steps that release nothing of the adapters do not matter. -/
theorem Registered.after {caps : Caps} (h : Registered config caps steps) (hrest : Keeping rest) :
    Registered config caps (rest ++ steps) where
  kept := hrest.append h.kept
  masters i hi := Tenure.acquired_mono (h.masters i hi) fun _ hstep =>
    List.mem_append_right _ hstep
  adapters i hi resource hresource := Tenure.acquired_mono (h.adapters i hi resource hresource)
    fun _ hstep => List.mem_append_right _ hstep

/-- An error path does not succeed. -/
theorem traces_unwound {undo : DriverProgram Unit} {err : Int} {Q : List DriverStep → Prop}
    (herr : err ≠ 0) :
    (undo >>= fun _ => pure (err, dev)).Traces fun result steps => result.1 = 0 → Q steps := by
  have hret : (undo >>= fun _ => pure (err, dev)).Yields fun result => result.1 ≠ 0 :=
    yields_bind.mpr (Yields.of_forall fun _ => herr)
  exact hret.traces.mono fun _ _ hne hzero => absurd hzero hne

/-- The clock unit leaves the capabilities alone. -/
theorem same_caps_cgu_init (config : DriverConfig) (dev : Dev) :
    (cguInit config dev).Yields fun result => result.2.caps = dev.caps := by
  refine yields_bind.mpr (Yields.of_forall fun granted => ?_)
  refine (yields_ite _ _ _).mpr ⟨fun _ => rfl, fun _ => ?_⟩
  exact yields_bind.mpr (Yields.of_forall fun _ => rfl)

/-- So does the interrupt controller. -/
theorem same_caps_msi_init (dev : Dev) :
    (msiInit dev).Yields fun result => result.2.caps = dev.caps := by
  refine yields_bind.mpr (Yields.of_forall fun granted => ?_)
  refine (yields_ite _ _ _).mpr ⟨fun _ => rfl, fun _ => ?_⟩
  refine yields_bind.mpr (Yields.of_forall fun granted => ?_)
  refine (yields_ite _ _ _).mpr ⟨fun _ => rfl, fun _ => ?_⟩
  refine yields_bind.mpr (Yields.of_forall fun _ => ?_)
  exact yields_bind.mpr (Yields.of_forall fun _ => rfl)

/-- When this part of probe succeeds, masters and adapters are registered. -/
theorem probe_inputs_gains (config : DriverConfig) (dev : Dev) :
    (probeInputs config dev).Traces fun result steps =>
      result.1 = 0 → Registered config dev.caps steps := by
  refine traces_bind.mpr ((i2c_init_gains config).mono fun err i2c hi2c => ?_)
  refine traces_ite.mpr ⟨fun herr => traces_unwound herr, fun hzero => ?_⟩
  obtain ⟨hi2cKept, hmasters⟩ := hi2c
  refine traces_bind.mpr ((keeping_traces
    (only_bsl_autoload (no_release_update _) config)).mono fun _ loaded hloaded => ?_)
  have hinputs : ifInit.Traces fun _ steps => Keeping steps := keeping_traces only_if_init
  generalize ifInit = inputs at hinputs ⊢
  refine traces_bind.mpr (hinputs.mono fun err channels hchannels => ?_)
  refine traces_ite.mpr ⟨fun herr => traces_unwound herr, fun _ => ?_⟩
  refine traces_bind.mpr ((dvb_init_gains config dev).mono ?_)
  rintro ⟨err, inited⟩ dvb hdvb
  refine traces_ite.mpr ⟨fun herr => traces_unwound herr, fun hzero' => ?_⟩
  obtain ⟨hdvbKept, hadapters⟩ := hdvb (not_not.mp hzero')
  refine traces_bind.mpr ((keeping_traces
    (only_create_files (no_release_request _) devAttrs)).mono fun _ files hfiles _ => ?_)
  refine ⟨?_, fun i hi => ?_, fun i hi resource hresource => ?_⟩
  · exact hi2cKept.append (hloaded.append (hchannels.append (hdvbKept.append
      (hfiles.append keeping_nil))))
  · exact Tenure.acquired_mono (hmasters (not_not.mp hzero) i hi) fun _ hstep => by simp [hstep]
  · exact Tenure.acquired_mono (hadapters i hi resource hresource) fun _ hstep => by simp [hstep]

/-- A successful probe has registered everything behind the PCI device. -/
theorem probe_units_gains (config : DriverConfig) (dev : Dev) :
    (probeUnits config dev).Traces fun result steps =>
      result.1 = 0 → Registered config dev.caps steps := by
  have hclocks := (keeping_traces (only_cgu_init (no_release_request _) config
    (fun _ => no_release_hazard) dev)).and (same_caps_cgu_init config dev).traces
  refine traces_bind.mpr (hclocks.mono ?_)
  rintro ⟨err, clocked⟩ clocks ⟨hclocks, hcaps⟩
  refine traces_ite.mpr ⟨fun herr => traces_unwound herr, fun _ => ?_⟩
  have harmed := (keeping_traces (only_msi_init (no_release_request _) (no_release_update _)
    clocked)).and (same_caps_msi_init clocked).traces
  refine traces_bind.mpr (harmed.mono ?_)
  rintro ⟨err, ready⟩ armed ⟨harmed, hsame⟩
  refine traces_ite.mpr ⟨fun herr => traces_unwound herr, fun _ => ?_⟩
  have hcaps' : ready.caps = dev.caps := hsame.trans hcaps
  refine (probe_inputs_gains config ready).mono fun result steps hregistered hzero => ?_
  exact ((hcaps' ▸ hregistered hzero).after harmed).after hclocks

end Driver

end Saa7231
