import Saa7231.Cgu.Outputs
import Saa7231.Cgu.PortConflicts
import Saa7231.Hardware.Frame

/-!
# The clock that the CAM input and the TS output share

The output of the CAM feeds two ports. `saa7231_disable_clocks` switches it off with the last of
them, and nothing switches it on again: the use case that `saa7231_activate_clocks` sets up does not
contain it. A second deactivation meets an output that is recorded as off, and clears its register,
which enables it. `shared_output_iff` says that the output follows its ports exactly as long as no
call is made after it was switched off.
-/

namespace Saa7231

open Interaction Bus Program

/-! ## The two ports -/

/-- The ports that share the output. -/
inductive SharedPort where
  | camInput
  | tsOutput

namespace SharedPort

def mode : SharedPort → Mode
  | .camInput => .digitalCapture
  | .tsOutput => .digitalRender

def dmaport : SharedPort → Nat
  | .camInput => streamPortTs2dCam
  | .tsOutput => streamPortTsoifPc

def clkport : SharedPort → ClkPort
  | .camInput => .tsin
  | .tsOutput => .tsout

def other : SharedPort → SharedPort
  | .camInput => .tsOutput
  | .tsOutput => .camInput

/-- The instance of a port is known. -/
theorem getclk_instance (port : SharedPort) :
    cguGetclkInstance port.mode port.dmaport = some (some port.clkport) := by
  cases port <;> rfl

/-- There are two ports. -/
theorem eq_or_eq_other (port other : SharedPort) : other = port ∨ other = port.other := by
  cases port <;> cases other <;> simp [SharedPort.other]

/-- They have clock ports of their own. -/
theorem other_clkport_ne (port : SharedPort) : port.other.clkport ≠ port.clkport := by
  cases port <;> exact ClkPort.noConfusion

end SharedPort

/-- A call on one of the two ports. -/
inductive SharedCall where
  | activate (port : SharedPort)
  | disable (port : SharedPort)

def SharedCall.clockCall : SharedCall → ClockCall
  | .activate port => .activate port.mode port.dmaport
  | .disable port => .disable port.mode port.dmaport

def ClockState.sharedCall (env : Environment) (version : Fin 2) (state : ClockState)
    (call : SharedCall) : ClockState :=
  state.call env version call.clockCall

/-- The enable field of the shared output. -/
def ClockState.sharedEnable (state : ClockState) : BitVec 32 :=
  enableField (state.board.regs (Mod.cgu + clkoutReg clkDomainTsoutCaextPcc))

/-- One of the two ports is active. -/
def ClockState.InUse (state : ClockState) : Prop :=
  ∃ port : SharedPort, state.cgu.Uses port.clkport

/-- The output is enabled whenever one of the two ports is active. -/
def ClockState.Clocked (state : ClockState) : Prop :=
  state.InUse → state.sharedEnable = clockEnable

/-- A deactivation that leaves both ports inactive leaves the output disabled. -/
def SharedCall.SwitchesOff (env : Environment) (version : Fin 2) (state : ClockState)
    (call : SharedCall) : Prop :=
  ∀ port, call = .disable port → ¬ (state.sharedCall env version call).InUse →
    (state.sharedCall env version call).sharedEnable = clockDisable

/-- The output is not recorded as switched off. -/
def ClockState.SharedOn (state : ClockState) : Prop :=
  state.cgu.clkStatus.freq clkDomainTsoutCaextPcc ≠ .off

variable {state : ClockState}

/-! ## Initialisation -/

/-- The outputs before `domain` run in their use case; those from there on are off. -/
structure ClockState.EnabledUpTo (domain : Nat) (state : ClockState) : Prop where
  off : ∀ i, domain ≤ i → state.cgu.clkStatus.freq i = .off
  enabled : ∀ i < domain, i ≠ clkDomainPcc → state.cgu.clkStatus.freq i = .usecase ∧
    enableField (state.board.regs (Mod.cgu + clkoutReg i)) = clockEnable

/-- One more domain is enabled. -/
theorem ClockState.EnabledUpTo.set_clk {domain : Nat} (h : state.EnabledUpTo domain)
    (env : Environment) :
    (state.after env fun cgu => setClk cgu domain .usecase).EnabledUpTo (domain + 1) := by
  by_cases hpcc : domain = clkDomainPcc
  · have hsame : setClk state.cgu domain .usecase = (pure (0, state.cgu) : BoardProgram _) := by
      unfold setClk
      rw [if_neg fun hoff => absurd hoff.1 (by decide), if_pos hpcc]
    rw [ClockState.after_pure (fun cgu => setClk cgu domain .usecase) hsame]
    refine ⟨fun i hi => h.off i (by omega), fun i hi hne => h.enabled i ?_ hne⟩
    have hdomain : i ≠ domain := fun heq => hne (heq.trans hpcc)
    omega
  · have hnew : ClkFrequency.usecase ≠ state.cgu.clkStatus.freq domain := by
      rw [h.off domain le_rfl]
      decide
    have hset := set_clk_new hpcc (fun hoff => absurd hoff.1 (by decide)) hnew rfl
    rw [ClockState.after_set_clk_output (fun cgu => setClk cgu domain .usecase) hset]
    refine ⟨fun i hi => ?_, fun i hi hne => ?_⟩
    · exact (record_freq_of_ne (by omega)).trans (h.off i (by omega))
    · by_cases heq : i = domain
      · have hfits := clk_out_preset_fits domain 0
        have hholds := output_value_holds hfits.1 (preset_divider_lt hfits.2)
          (show clockEnable.toNat < 2 by decide)
        rw [heq]
        refine ⟨record_freq_self, ?_⟩
        show enableField (Function.update state.board.regs _ _ _) = clockEnable
        rw [Function.update_self]
        exact hholds.enable
      · have hreg : Mod.cgu + clkoutReg i ≠ Mod.cgu + clkoutReg domain := fun hreg =>
          heq (clkout_reg_injective (Nat.add_left_cancel hreg))
        obtain ⟨hfreq, henable⟩ := h.enabled i (by omega) hne
        refine ⟨(record_freq_of_ne heq).trans hfreq, ?_⟩
        show enableField (Function.update state.board.regs _ _ _) = clockEnable
        rw [Function.update_of_ne hreg]
        exact henable

/-- All domains are, one after the other. -/
theorem set_clks_enabled (env : Environment) {domain : Nat} (h : state.EnabledUpTo domain)
    (n : Nat) :
    let result := (setClks domain n state.cgu).run (boardWorld env) state.board
    (ClockState.mk result.1 result.2).EnabledUpTo (domain + n) := by
  induction n generalizing domain state with
  | zero => exact h
  | succ n ih =>
      have hnext := ih (h.set_clk env)
      rw [show domain + 1 + n = domain + (n + 1) by omega] at hnext
      rw [setClks, run_bind]
      exact hnext

/-- The operation writes no register of the shared output. -/
abbrev SparesShared : BusOp BoardOp → Prop :=
  Touches (fun address => address ≠ Mod.cgu + clkoutReg clkDomainTsoutCaextPcc) []

/-- A write elsewhere leaves the shared output alone. -/
theorem spares_shared_wr {value : BitVec 32} {address : Nat} (h : address ≠ 0x00180090) :
    SparesShared (.wr value address) := h

/-- The gates are elsewhere. -/
theorem cgu_gates_spares : (cguGates : BoardProgram Unit).Only SparesShared := by
  have hgates : ∀ gates : List Nat, (∀ gate ∈ gates, gate < 0x1000) →
      (gates.forM fun gate => wr 0x01 (Mod.stream + gate) : BoardProgram _).Only SparesShared := by
    intro gates hsmall
    induction gates with
    | nil => exact only_pure ()
    | cons gate rest ih =>
        obtain ⟨hgate, hrest⟩ := List.forall_mem_cons.mp hsmall
        have hne : Mod.stream + gate ≠ Mod.cgu + clkoutReg clkDomainTsoutCaextPcc := by
          show 0x0012c000 + gate ≠ 0x00180090
          omega
        exact wr_bind_only.mpr ⟨hne, ih hrest⟩
  unfold cguGates
  simp only [wr_bind_only, rd_bind_only]
  refine ⟨?_, ?_, ?_, ?_, ?_, ?_, ?_, ?_, trivial, fun _ => ⟨?_, hgates streamGates (by decide)⟩⟩
  all_goals exact spares_shared_wr (by decide)

/-- So are the resets. -/
theorem cgu_resets_spares : (cguResets : BoardProgram Unit).Only SparesShared := by
  unfold cguResets
  simp only [wr_bind_only, rd_bind_only, delay_bind_only]
  refine ⟨trivial, trivial, fun _ => ⟨?_, trivial, ?_, ?_, trivial, fun _ => ⟨?_, trivial, ?_, ?_,
    trivial, fun _ => ⟨trivial, fun _ => trivial⟩⟩⟩⟩
  all_goals exact spares_shared_wr (by decide)

/-- The shared output runs, and is recorded so. -/
structure ClockState.SharedRuns (state : ClockState) : Prop where
  record : state.SharedOn
  enable : state.sharedEnable = clockEnable

/-- Writing another register. -/
theorem ClockState.SharedRuns.write (h : state.SharedRuns) (value : BitVec 32) {address : Nat}
    (hne : address ≠ Mod.cgu + clkoutReg clkDomainTsoutCaextPcc) :
    (ClockState.mk state.cgu (state.board.write value address)).SharedRuns := by
  refine ⟨h.record, Eq.trans (congrArg enableField ?_) h.enable⟩
  exact Function.update_of_ne hne.symm _ _

/-- A program that does not write the register. -/
theorem ClockState.SharedRuns.run (h : state.SharedRuns) (env : Environment)
    {program : BoardProgram Unit}
    (honly : program.Only SparesShared) :
    (ClockState.mk state.cgu (program.run (boardWorld env) state.board).2).SharedRuns :=
  ⟨h.record, Eq.trans (congrArg enableField (regs_frame honly (not_not.mpr rfl) _)) h.enable⟩

/-- Setting another output. -/
theorem ClockState.SharedRuns.set_clk (h : state.SharedRuns) (env : Environment) {domain : Nat}
    (frequency : ClkFrequency) (hne : domain ≠ clkDomainTsoutCaextPcc) :
    (state.after env fun cgu => setClk cgu domain frequency).SharedRuns := by
  have hreg : Mod.cgu + clkoutReg domain ≠ Mod.cgu + clkoutReg clkDomainTsoutCaextPcc :=
    fun hreg => hne (clkout_reg_injective (Nat.add_left_cancel hreg))
  rcases set_clk_cases state.cgu domain frequency with
    ⟨src, div, val, hset⟩ | ⟨ret, cgu, hset, hfreq, _⟩
  · rw [ClockState.after_set_clk_output (fun cgu => setClk cgu domain frequency) hset]
    exact ⟨fun hoff => h.record ((record_freq_of_ne hne.symm).symm.trans hoff),
      (h.write val hreg).enable⟩
  · rw [ClockState.after_pure (fun cgu => setClk cgu domain frequency) hset]
    exact ⟨fun hoff => h.record ((hfreq _ hne.symm).symm.trans hoff), h.enable⟩

/-- After the initialisation the shared output runs. -/
theorem ClockState.init_shared_runs (env : Environment) (verbose : Bool) (rootClk : CguRootclk)
    (board : Board) : (ClockState.init env verbose rootClk board).SharedRuns := by
  unfold ClockState.init cguProgram
  rw [run_bind]
  generalize (cguPlls bug verbose (Cgu.rooted rootClk)).run (boardWorld env) board = plls
  have hstart : (ClockState.mk (Cgu.rooted rootClk) plls.2).EnabledUpTo 0 :=
    ⟨(cgu_rooted_set_up rootClk).off, fun i hi => absurd hi (Nat.not_lt_zero i)⟩
  have houtputs := (set_clks_enabled env hstart clkDomainClocks).enabled
    clkDomainTsoutCaextPcc (by decide) (by decide)
  rw [run_bind]
  generalize (setClks 0 clkDomainClocks (Cgu.rooted rootClk)).run (boardWorld env) plls.2 = outputs
    at houtputs ⊢
  have hruns : (ClockState.mk outputs.1 outputs.2).SharedRuns :=
    ⟨fun hoff => absurd (houtputs.1.symm.trans hoff) (by decide), houtputs.2⟩
  have hexternal := ((hruns.run env cgu_gates_spares).run env cgu_resets_spares).set_clk env .off
    (show clkDomainExtCa ≠ clkDomainTsoutCaextPcc by decide)
  rw [run_bind, run_bind, run_bind]
  exact hexternal.write 0x0200080C (by decide)

/-! ## Activation -/

/-- An activation makes its port active and touches neither the record nor the register of the
output. -/
theorem ClockState.shared_activate (env : Environment) (version : Fin 2)
    (h : state.cgu.Settled) (port : SharedPort) :
    (∃ adcIn, (state.sharedCall env version (.activate port)).cgu =
        state.cgu.activated port.clkport adcIn ∨
      (state.sharedCall env version (.activate port)).cgu = state.cgu ∧
        state.cgu.Uses port.clkport) ∧
      (state.sharedCall env version (.activate port)).sharedEnable = state.sharedEnable := by
  have hport := port.getclk_instance
  constructor
  · by_cases huses : state.cgu.Uses port.clkport
    · have hsame : state.sharedCall env version (.activate port) = ⟨state.cgu, state.board⟩ :=
        ClockState.after_pure ((SharedCall.activate port).clockCall.program version)
          (activate_clocks_active hport huses)
      rw [hsame]
      exact ⟨state.cgu.adcIn, Or.inr ⟨rfl, huses⟩⟩
    · obtain ⟨adcIn, hcgu⟩ := ClockState.activated env version h hport huses
      exact ⟨adcIn, Or.inl hcgu⟩
  · have honly : ((SharedCall.activate port).clockCall.program version state.cgu).Only
        (Touches (fun address => address = Mod.cgu + cguGcr9RwAnaClockDivSel) []) :=
      activate_clocks_only h (by rw [hport]; rfl) trivial fun _ => rfl
    exact congrArg enableField (regs_frame honly (by decide) state.board)

/-! ## Deactivation -/

/-- The unit with a port marked inactive. -/
def Cgu.deactivated (cgu : Cgu) (port : SharedPort) : Cgu :=
  cgu.updatePort port.clkport fun setup => { setup with active := 0 }

/-- The numbers of the two clock ports differ. -/
theorem SharedPort.number_ne (port : SharedPort) :
    port.other.clkport.number ≠ port.clkport.number := fun h =>
  port.other_clkport_ne (ClkPort.number_injective h)

/-- Deactivating a port leaves the record of the other. -/
theorem Cgu.deactivated_other (cgu : Cgu) (port : SharedPort) :
    (cgu.deactivated port).portSetup port.other.clkport.number =
      cgu.portSetup port.other.clkport.number := if_neg port.number_ne

/-- The output is switched off unless the other port is active. -/
theorem Cgu.clk_off_shared (cgu : Cgu) (port : SharedPort) :
    clkOff (cgu.deactivated port) port.clkport =
      if (cgu.portSetup port.other.clkport.number).active = 0 then some clkDomainTsoutCaextPcc
      else none := by
  rw [← cgu.deactivated_other port]
  cases port <;> rfl

/-- While the other port is active, a deactivation switches nothing. -/
theorem ClockState.disable_beside {env : Environment} {version : Fin 2} {port : SharedPort}
    (hother : (state.cgu.portSetup port.other.clkport.number).active ≠ 0) :
    state.sharedCall env version (.disable port) = ⟨state.cgu.deactivated port, state.board⟩ := by
  have hoff : clkOff (state.cgu.deactivated port) port.clkport = none :=
    (state.cgu.clk_off_shared port).trans (if_neg hother)
  have hprogram : (SharedCall.disable port).clockCall.program version state.cgu =
      (pure (0, state.cgu.deactivated port) : BoardProgram (Int × Cgu)) := by
    show state.cgu.disableClocks port.mode port.dmaport = _
    unfold Cgu.deactivated at hoff
    simp only [Cgu.disableClocks, port.getclk_instance, hoff]
    rfl
  exact ClockState.after_pure ((SharedCall.disable port).clockCall.program version)
    hprogram

/-- A deactivation beside an inactive port switches the output off. -/
theorem ClockState.disable_last {env : Environment} {version : Fin 2} {port : SharedPort}
    (hother : (state.cgu.portSetup port.other.clkport.number).active = 0) :
    state.sharedCall env version (.disable port) =
      (ClockState.mk (state.cgu.deactivated port) state.board).after env fun cgu =>
        setClk cgu clkDomainTsoutCaextPcc .off := by
  have hoff : clkOff (state.cgu.deactivated port) port.clkport = some clkDomainTsoutCaextPcc :=
    (state.cgu.clk_off_shared port).trans (if_pos hother)
  have hprogram : (SharedCall.disable port).clockCall.program version state.cgu =
      (do
        let result ← setClk (state.cgu.deactivated port) clkDomainTsoutCaextPcc .off
        pure (0, result.2) : BoardProgram (Int × Cgu)) := by
    show state.cgu.disableClocks port.mode port.dmaport = _
    unfold Cgu.deactivated at hoff
    simp only [Cgu.disableClocks, port.getclk_instance, hoff]
    rfl
  unfold ClockState.sharedCall ClockState.call ClockState.after
  rw [hprogram, run_bind]
  rfl

/-- Switching off an output that runs disables it. -/
theorem ClockState.switch_off {env : Environment} (hon : state.SharedOn) :
    (state.after env fun cgu => setClk cgu clkDomainTsoutCaextPcc .off).sharedEnable =
      clockDisable := by
  have hfits := clk_out_preset_fits clkDomainTsoutCaextPcc 0
  have hholds := output_value_holds hfits.1 (show (7#32).toNat < 8 by decide)
    (show clockDisable.toNat < 2 by decide)
  have hset := set_clk_new (show clkDomainTsoutCaextPcc ≠ clkDomainPcc by decide)
    (fun h => absurd h.2 (by decide)) hon.symm rfl
  rw [ClockState.after_set_clk_output
    (fun cgu => setClk cgu clkDomainTsoutCaextPcc .off) hset]
  show enableField (Function.update state.board.regs _ _ _) = clockDisable
  rw [Function.update_self]
  exact hholds.enable

/-- Switching it off again clears its register, which enables it. -/
theorem ClockState.switch_off_again {env : Environment} (hoff : ¬ state.SharedOn) :
    (state.after env fun cgu => setClk cgu clkDomainTsoutCaextPcc .off).sharedEnable =
      clockEnable := by
  have hset := set_clk_same (show clkDomainTsoutCaextPcc ≠ clkDomainPcc by decide)
    (fun h => absurd h.2 (by decide)) (not_not.mp hoff).symm
  rw [ClockState.after_set_clk_output
    (fun cgu => setClk cgu clkDomainTsoutCaextPcc .off) hset]
  show enableField (Function.update state.board.regs _ _ _) = clockEnable
  rw [Function.update_self]
  exact zero_holds.enable

/-- Either way the output is recorded as off, and the ports are as before. -/
theorem ClockState.switch_off_records {env : Environment} (state : ClockState) :
    ¬ (state.after env fun cgu => setClk cgu clkDomainTsoutCaextPcc .off).SharedOn ∧
      (state.after env fun cgu => setClk cgu clkDomainTsoutCaextPcc .off).cgu.portSetup =
        state.cgu.portSetup := by
  obtain ⟨src, div, val, hset⟩ := set_clk_sets state.cgu
    (show clkDomainTsoutCaextPcc ≠ clkDomainPcc by decide) (fun h => absurd h.2 (by decide))
    (show ClkFrequency.off ≠ .no by decide)
  rw [ClockState.after_set_clk_output
    (fun cgu => setClk cgu clkDomainTsoutCaextPcc .off) hset]
  exact ⟨not_not.mpr record_freq_self, rfl⟩

/-! ## Runs -/

/-- The unit is settled, and the output runs or was switched off with both ports inactive. -/
structure ClockState.Shared (state : ClockState) : Prop where
  settled : state.cgu.Settled
  flags : ∀ i, (state.cgu.portSetup i).active = 0 ∨ (state.cgu.portSetup i).active = 1
  output : state.SharedRuns ∨
    (¬ state.SharedOn ∧ state.sharedEnable = clockDisable ∧ ¬ state.InUse)

/-- The flags of the ports stay 0 or 1. -/
theorem Cgu.update_port_flags {cgu : Cgu} (clkport : ClkPort) {value : BitVec 8}
    (hvalue : value = 0 ∨ value = 1)
    (h : ∀ i, (cgu.portSetup i).active = 0 ∨ (cgu.portSetup i).active = 1) (i : Nat) :
    ((cgu.updatePort clkport fun setup => { setup with active := value }).portSetup i).active = 0 ∨
      ((cgu.updatePort clkport fun setup => { setup with active := value }).portSetup i).active =
        1 := by
  unfold Cgu.updatePort
  dsimp only
  split
  next => exact hvalue
  next => exact h i

/-- The ports after a deactivation. -/
theorem Cgu.deactivated_shared {cgu : Cgu} {port other : SharedPort}
    (h : (cgu.deactivated port).Uses other.clkport) :
    other = port.other ∧ cgu.Uses other.clkport := by
  have huses : cgu.Uses other.clkport := @Cgu.deactivated_uses cgu cgu.clkStatus _ _ h
  refine ⟨(port.eq_or_eq_other other).resolve_left fun heq => ?_, huses⟩
  have hzero : ((cgu.deactivated port).portSetup port.clkport.number).active = 0 :=
    congrArg PortSetup.active (if_pos rfl)
  rw [heq, Cgu.Uses, hzero] at h
  exact absurd h (by decide)

/-- A state with shared clocks is clocked. -/
theorem ClockState.Shared.clocked (h : state.Shared) : state.Clocked := by
  intro huse
  rcases h.output with hruns | ⟨_, _, hidle⟩
  · exact hruns.enable
  · exact absurd huse hidle

/-- The last deactivation leaves both ports inactive. -/
theorem ClockState.disable_last_idle {env : Environment} {version : Fin 2} {port : SharedPort}
    (hother : (state.cgu.portSetup port.other.clkport.number).active = 0) :
    ¬ (state.sharedCall env version (.disable port)).InUse := by
  rintro ⟨user, huses⟩
  rw [ClockState.disable_last hother, Cgu.Uses, (ClockState.switch_off_records _).2] at huses
  obtain ⟨rfl, huses⟩ := Cgu.deactivated_shared huses
  rw [Cgu.Uses, hother] at huses
  exact absurd huses (by decide)

/-- A call keeps the flags 0 or 1. -/
theorem ClockState.Shared.flags_call {env : Environment} {version : Fin 2} (h : state.Shared)
    (call : SharedCall) (i : Nat) :
    ((state.sharedCall env version call).cgu.portSetup i).active = 0 ∨
      ((state.sharedCall env version call).cgu.portSetup i).active = 1 := by
  cases call with
  | activate port =>
      obtain ⟨⟨adcIn, hcgu | ⟨hcgu, _⟩⟩, _⟩ :=
        ClockState.shared_activate env version h.settled port
      · rw [hcgu]
        exact Cgu.update_port_flags port.clkport (Or.inr rfl) (fun i => h.flags i) i
      · rw [hcgu]
        exact h.flags i
  | disable port =>
      have hflags := Cgu.update_port_flags port.clkport (Or.inl rfl) h.flags i
      by_cases hother : (state.cgu.portSetup port.other.clkport.number).active = 0
      · rw [ClockState.disable_last hother, (ClockState.switch_off_records _).2]
        exact hflags
      · rw [ClockState.disable_beside hother]
        exact hflags

section Keep

variable {env : Environment} {version : Fin 2}

/-- An activation leaves a running output running. -/
theorem ClockState.SharedRuns.activate (hruns : state.SharedRuns) (h : state.cgu.Settled)
    (port : SharedPort) : (state.sharedCall env version (.activate port)).SharedRuns := by
  obtain ⟨⟨adcIn, hcgu⟩, henable⟩ := ClockState.shared_activate env version h port
  have hstatus : (state.sharedCall env version (.activate port)).cgu.clkStatus =
      state.cgu.clkStatus := by
    rcases hcgu with hcgu | ⟨hcgu, _⟩
    · rw [hcgu]
      rfl
    · rw [hcgu]
  refine ⟨?_, henable.trans hruns.enable⟩
  unfold ClockState.SharedOn
  rw [hstatus]
  exact hruns.record

/-- So does a deactivation beside an active port. -/
theorem ClockState.SharedRuns.disable_beside (hruns : state.SharedRuns) {port : SharedPort}
    (hother : state.cgu.Uses port.other.clkport) :
    (state.sharedCall env version (.disable port)).SharedRuns ∧
      (state.sharedCall env version (.disable port)).InUse := by
  have hone : (state.cgu.portSetup port.other.clkport.number).active = 1 := hother
  rw [ClockState.disable_beside (by rw [hone]; decide)]
  refine ⟨⟨hruns.record, hruns.enable⟩, port.other, ?_⟩
  exact (congrArg PortSetup.active (state.cgu.deactivated_other port)).trans hone

/-- The last deactivation switches it off. -/
theorem ClockState.SharedOn.disable_last (hon : state.SharedOn) {port : SharedPort}
    (hother : (state.cgu.portSetup port.other.clkport.number).active = 0) :
    ¬ (state.sharedCall env version (.disable port)).SharedOn ∧
      (state.sharedCall env version (.disable port)).sharedEnable = clockDisable ∧
      ¬ (state.sharedCall env version (.disable port)).InUse := by
  refine ⟨?_, ?_, ClockState.disable_last_idle hother⟩
  · rw [ClockState.disable_last hother]
    exact (ClockState.switch_off_records _).1
  · rw [ClockState.disable_last hother]
    exact ClockState.switch_off hon

end Keep

/-- While the output runs, every call keeps it right. -/
theorem ClockState.Shared.keep (h : state.Shared) (env : Environment) (version : Fin 2)
    (hon : state.SharedOn) (call : SharedCall) :
    (state.sharedCall env version call).Shared ∧ call.SwitchesOff env version state := by
  have hsettled : (state.sharedCall env version call).cgu.Settled :=
    ClockCall.step_settled h.settled version call.clockCall
  have hruns := h.output.resolve_right fun hoff => hoff.1 hon
  cases call with
  | activate port =>
      exact ⟨⟨hsettled, h.flags_call (.activate port), Or.inl (hruns.activate h.settled port)⟩,
        fun _ hcall => SharedCall.noConfusion hcall⟩
  | disable port =>
      by_cases hother : (state.cgu.portSetup port.other.clkport.number).active = 0
      · have hlast : ¬ (state.sharedCall env version (.disable port)).SharedOn ∧ _ ∧ _ :=
          hon.disable_last hother
        exact ⟨⟨hsettled, h.flags_call (.disable port), Or.inr hlast⟩, fun _ _ _ => hlast.2.1⟩
      · have hone := (h.flags port.other.clkport.number).resolve_left hother
        obtain ⟨hnext, huse⟩ := hruns.disable_beside hone
        exact ⟨⟨hsettled, h.flags_call (.disable port), Or.inl hnext⟩,
          fun _ _ hidle => absurd huse hidle⟩

/-- After an activation the port uses its clocks. -/
theorem ClockState.activate_uses (env : Environment) (version : Fin 2) (h : state.cgu.Settled)
    (port : SharedPort) :
    (state.sharedCall env version (.activate port)).cgu.Uses port.clkport := by
  obtain ⟨⟨adcIn, hcgu | ⟨hcgu, huses⟩⟩, _⟩ :=
    ClockState.shared_activate env version h port
  · rw [hcgu, Cgu.activated_uses]
    exact Or.inl rfl
  · rw [hcgu]
    exact huses

/-- Once the output was switched off, every call goes wrong. -/
theorem ClockState.Shared.break {env : Environment} {version : Fin 2} (h : state.Shared)
    (hoff : ¬ state.SharedOn) (call : SharedCall)
    (hclocked : (state.sharedCall env version call).Clocked) :
    ¬ call.SwitchesOff env version state := by
  obtain ⟨_, hdisabled, hidle⟩ := h.output.resolve_left fun hruns => hoff hruns.record
  cases call with
  | activate port =>
      have henable :=
        (ClockState.shared_activate env version h.settled port).2
      have huse := ClockState.activate_uses env version h.settled port
      have hwrong : clockDisable = clockEnable :=
        (henable.trans hdisabled).symm.trans (hclocked ⟨port, huse⟩)
      exact absurd hwrong (by decide)
  | disable port =>
      intro hswitches
      have hother : (state.cgu.portSetup port.other.clkport.number).active = 0 :=
        (h.flags _).resolve_right fun hone => hidle ⟨port.other, hone⟩
      have henable : (state.sharedCall env version (.disable port)).sharedEnable = clockEnable := by
        rw [ClockState.disable_last hother]
        exact ClockState.switch_off_again hoff
      have hwrong : clockDisable = clockEnable :=
        (hswitches port rfl (ClockState.disable_last_idle hother)).symm.trans henable
      exact absurd hwrong (by decide)

/-- The initialisation gives such a state. -/
theorem ClockState.init_is_shared (env : Environment) (verbose : Bool) (rootClk : CguRootclk)
    (board : Board) : (ClockState.init env verbose rootClk board).Shared := by
  have hfresh := ClockState.init_fresh env verbose rootClk board
  exact ⟨hfresh.settled, fun i => Or.inl (hfresh.ports i),
    Or.inl (ClockState.init_shared_runs env verbose rootClk board)⟩

/-- An activation of one port leaves the other one inactive. -/
theorem ClockState.activate_other_idle (env : Environment) (version : Fin 2)
    (h : state.Shared) (hidle : ¬ state.InUse) (port : SharedPort) :
    ((state.sharedCall env version (.activate port)).cgu.portSetup
      port.other.clkport.number).active = 0 := by
  have hnone : ¬ state.cgu.Uses port.other.clkport := fun huses => hidle ⟨port.other, huses⟩
  refine (h.flags_call (.activate port) _).resolve_right fun hone => ?_
  obtain ⟨⟨adcIn, hcgu | ⟨hcgu, _⟩⟩, _⟩ := ClockState.shared_activate env version h.settled port
  · have huses : (state.cgu.activated port.clkport adcIn).Uses port.other.clkport := hcgu ▸ hone
    rw [Cgu.activated_uses] at huses
    exact huses.elim port.other_clkport_ne hnone
  · exact hnone (hcgu ▸ hone)

/-- A port that is used once leaves the output switched off. -/
theorem ClockState.used_once (env : Environment) (version : Fin 2) (h : state.Shared)
    (hon : state.SharedOn) (hidle : ¬ state.InUse) (port : SharedPort) :
    ((state.sharedCall env version (.activate port)).sharedCall env version
        (.disable port)).Shared ∧
      ¬ ((state.sharedCall env version (.activate port)).sharedCall env version
        (.disable port)).SharedOn := by
  have hused := (h.keep env version hon (.activate port)).1
  have huses := ClockState.activate_uses env version h.settled port
  have hrecord := (hused.output.resolve_right fun hoff => hoff.2.2 ⟨port, huses⟩).record
  refine ⟨(hused.keep env version hrecord (.disable port)).1, ?_⟩
  rw [ClockState.disable_last (ClockState.activate_other_idle env version h hidle port)]
  exact (ClockState.switch_off_records _).1

/-- After `saa7231_cgu_init`, for every sequence of activations and deactivations of the CAM input
and the TS output: the output is enabled whenever a port is active, and disabled after every
deactivation that leaves both inactive, exactly when every call is made before the output was
switched off. -/
theorem shared_output_iff (env : Environment) (version : Fin 2) (verbose : Bool)
    (rootClk : CguRootclk) (board : Board) (calls : List SharedCall) :
    Always (ClockState.sharedCall env version) ClockState.Clocked
        (.init env verbose rootClk board) calls ∧
      Each (ClockState.sharedCall env version)
        (fun state call => call.SwitchesOff env version state)
        (.init env verbose rootClk board) calls ↔
      Each (ClockState.sharedCall env version) (fun state _ => state.SharedOn)
        (.init env verbose rootClk board) calls := by
  have hvalid : Each (ClockState.sharedCall env version) (fun _ _ => True)
      (.init env verbose rootClk board) calls := each_of_forall fun _ _ => trivial
  exact always_and_each_iff (ClockState.init_is_shared env verbose rootClk board)
    (fun _ h => h.clocked) (fun _ call h _ hon => h.keep env version hon call)
    (fun _ call h _ hoff => h.break hoff call) hvalid

/-- The CAM input is used once. Used again, it has no clock; disabled again, it leaves the clock
on. -/
theorem cam_input_used_twice :
    ¬ Always (ClockState.sharedCall .plain 0) ClockState.Clocked
        (.init .plain false .clkRoot54MHz .reset)
        [.activate .camInput, .disable .camInput, .activate .camInput] ∧
      ¬ Each (ClockState.sharedCall .plain 0)
        (fun state call => call.SwitchesOff .plain 0 state)
        (.init .plain false .clkRoot54MHz .reset)
        [.activate .camInput, .disable .camInput, .disable .camInput] := by
  have hstart := ClockState.init_is_shared .plain false .clkRoot54MHz .reset
  have hruns := ClockState.init_shared_runs .plain false .clkRoot54MHz .reset
  have hports := (ClockState.init_fresh .plain false .clkRoot54MHz .reset).ports
  have hidle : ¬ (ClockState.init .plain false .clkRoot54MHz .reset).InUse := by
    rintro ⟨port, huses⟩
    rw [Cgu.Uses, hports] at huses
    exact absurd huses (by decide)
  obtain ⟨hleft, hoff⟩ := ClockState.used_once .plain 0 hstart hruns.record hidle .camInput
  constructor
  · rintro ⟨_, _, _, hclocked⟩
    exact hleft.break hoff (.activate .camInput) hclocked fun _ hcall =>
      SharedCall.noConfusion hcall
  · rintro ⟨_, _, hswitches, _⟩
    have hunused := (hleft.output.resolve_left fun hruns => hoff hruns.record).2.2
    have hother := (hleft.flags ClkPort.tsout.number).resolve_right fun hone =>
      hunused ⟨.tsOutput, hone⟩
    refine hleft.break hoff (.disable .camInput) (fun huse => absurd huse ?_) hswitches
    exact ClockState.disable_last_idle hother

end Saa7231
