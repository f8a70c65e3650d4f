import Saa7231.Cgu.Activation
import Mathlib.Tactic.IntervalCases

/-!
# What an activation changes

`saa7231_cgu_init` leaves a unit that is `Settled`: no port has an index, no input is active, and
the two outputs that the use case 0 looks at are recorded as the use case wants them. In such a unit
an activation programs no input and no output, only the clock of the first ADC, and it always
succeeds (`activate_clocks_idle_yields`). Activations and deactivations keep the unit settled.
-/

namespace Saa7231

open Interaction Bus Program

def clkDomainVcp : Nat := 6
def clkDomainStreamPcc : Nat := 13

/-- The setup of an output in its first preset. -/
def ClkSetup.first (domain : Nat) : ClkSetup :=
  ⟨(clkOutPreset domain 0).1, (clkOutPreset domain 0).2 - 1, 0⟩

/-- No port has an index, no input is active, and the outputs of the use case 0 are set up. -/
structure Cgu.Settled (cgu : Cgu) : Prop where
  index : ∀ i, (cgu.portSetup i).index = 0
  inputs : ∀ i, (cgu.clkIn i).active = 0
  vcp : cgu.clkStatus.setup clkDomainVcp = .first clkDomainVcp
  stream : cgu.clkStatus.setup clkDomainStreamPcc = .first clkDomainStreamPcc

section Settled

variable {Ext : Type} {ExtAns : Ext → Type} {fault : BusProgram ExtAns Unit} {cgu : Cgu}
  {version : Fin 2} {mode : Mode} {port : Nat}

/-! ## The use case 0 -/

/-- The loop over the inputs passes over those that are not active. -/
theorem setup_inputs_inactive (h : ∀ i, (cgu.clkIn i).active = 0) (preset n clkIn : Nat) :
    setupInputs fault preset clkIn n cgu = pure cgu := by
  induction n generalizing clkIn with
  | zero => rfl
  | succ n ih =>
      rw [setupInputs, if_neg fun hactive => hactive.2 (h clkIn), ih]

/-- A settled state sets no input up again. -/
theorem setup_inputs_settled (h : cgu.Settled) (preset n clkIn : Nat) :
    setupInputs fault preset clkIn n cgu = pure cgu :=
  setup_inputs_inactive h.inputs preset n clkIn

/-- The outputs that preset 1 looks at. -/
theorem clkout_sel_one {domain : Nat} (hdomain : domain < clkDomainClocks) :
    domain = clkDomainPcc ∨ domain = clkDomainCtrlPcc ∨ domain = clkDomainXtalDcsn ∨
      entry clkoutSel domain 1 = 0 ∨
        ((domain = clkDomainVcp ∨ domain = clkDomainStreamPcc) ∧
          entry clkoutSel domain 1 = 1) := by
  revert domain
  decide

/-- Nor an output. -/
theorem setup_output_settled (h : cgu.Settled) {domain : Nat} (hdomain : domain < clkDomainClocks) :
    (setupOutput 1 domain cgu : BusProgram ExtAns Cgu) = pure cgu := by
  have hsetup : domain = clkDomainVcp ∨ domain = clkDomainStreamPcc →
      cgu.clkStatus.setup domain = .first domain := by
    rintro (rfl | rfl)
    exacts [h.vcp, h.stream]
  unfold setupOutput
  rcases clkout_sel_one hdomain with hskip | hskip | hskip | hzero | ⟨hdomain, hone⟩
  · rw [if_pos (Or.inl hskip)]
  · rw [if_pos (Or.inr (Or.inl hskip))]
  · rw [if_pos (Or.inr (Or.inr hskip))]
  · simp only [hzero, if_true, ite_self]
  · simp [hone, hsetup hdomain, ClkSetup.first]

/-- Nor several. -/
theorem setup_outputs_settled (h : cgu.Settled) {n domain : Nat}
    (hn : domain + n ≤ clkDomainClocks) :
    (setupOutputs 1 domain n cgu : BusProgram ExtAns Cgu) = pure cgu := by
  induction n generalizing domain with
  | zero => rfl
  | succ n ih =>
      rw [setupOutputs, setup_output_settled h (by omega)]
      exact ih (by omega)

/-- The unit with the masks of the use case 0. -/
def Cgu.masked (cgu : Cgu) : Cgu :=
  { cgu with
    clkinSetup := cgu.clkinSetup ||| 0x0090D
    clkoutSetup := cgu.clkoutSetup ||| 0x03041 }

/-- Bits that are set already. -/
theorem or_eq_of_covered {setup mask : BitVec 32} (h : mask = setup &&& mask) :
    setup ||| mask = setup := by
  rw [h]
  ext i
  simp only [BitVec.getElem_or, BitVec.getElem_and]
  cases setup[i] <;> simp

/-- The use case 0 programs no input and no output. -/
theorem cgu_system_setup_settled (h : cgu.Settled) :
    cguSystemSetup fault cgu 0 = pure (0, cgu.masked) := by
  have houtputs : ∀ cgu : Cgu, cgu.Settled →
      (setupOutputs 1 0 clkDomainClocks cgu : BusProgram ExtAns Cgu) = pure cgu :=
    fun _ hsettled => setup_outputs_settled hsettled le_rfl
  have hpreset : clkSel.getD 0 0 = 1 := rfl
  have hclkin : clkinPresetMask.getD 1 0 = 0x0090D := rfl
  have hclkout : clkoutPresetMask.getD 1 0 = 0x03041 := rfl
  unfold cguSystemSetup
  simp only [hpreset, hclkin, hclkout]
  by_cases hcovered : 0x0090D = cgu.clkinSetup &&& 0x0090D
  · have hmasked : cgu.masked = { cgu with clkoutSetup := cgu.clkoutSetup ||| 0x03041 } := by
      rw [Cgu.masked, or_eq_of_covered hcovered]
    simp only [← hcovered, ne_eq, not_true_eq_false, if_false, pure_bind, houtputs cgu h, hmasked]
  · simp only [ne_eq, hcovered, not_false_eq_true, if_true, setup_inputs_settled h, pure_bind]
    have hset : ({ cgu with clkinSetup := cgu.clkinSetup ||| 0x0090D } : Cgu).Settled :=
      ⟨h.index, h.inputs, h.vcp, h.stream⟩
    rw [houtputs _ hset]
    rfl

/-! ## Activation -/

/-- The clock of the first ADC, which every activation asks for. -/
theorem adc_clksetup_zero : adcClksetup fault version cgu 0 =
    (do
      let (_ret, cgu) ← adcSetup cgu 0 2 false
      pure (0, cgu) : BusProgram ExtAns (Int × Cgu)) := by
  have hsel : adcSel 0 version = 1 := by
    revert version
    decide
  have hfirst : ∀ cgu : Cgu, (adcApply cgu 0 1 : BusProgram ExtAns Cgu) =
      Prod.snd <$> adcSetup cgu 0 2 false := fun _ => rfl
  have hothers : ∀ cgu : Cgu, (adcApply cgu 1 1 : BusProgram ExtAns Cgu) = pure cgu ∧
      (adcApply cgu 2 1 : BusProgram ExtAns Cgu) = pure cgu := fun _ => ⟨rfl, rfl⟩
  unfold adcClksetup
  simp only [hsel, hfirst, hothers, map_eq_pure_bind, bind_assoc, pure_bind]
  rfl

/-- What changes when a port of a settled unit is activated: the masks and the record of the ADC. -/
def Cgu.activated (cgu : Cgu) (port : ClkPort) (adcIn : Nat → BitVec 32) : Cgu :=
  { cgu.masked with adcIn := adcIn }.updatePort port fun setup => { setup with active := 1 }

/-- The converter's set-up changes its own record only. -/
theorem adc_setup_yields (cgu : Cgu) (adc : Nat) (clk : BitVec 32) (force : Bool) :
    (adcSetup cgu adc clk force : BusProgram ExtAns _).Yields
      fun result => ∃ adcIn, result.2 = { cgu with adcIn := adcIn } := by
  simp only [adcSetup, yields_ite, yields_pure, yields_bind]
  exact ⟨fun _ => ⟨_, rfl⟩, fun _ _ => ⟨fun _ => ⟨_, rfl⟩, fun _ _ => ⟨_, rfl⟩⟩⟩

/-- It reads and writes the register of the dividers. -/
theorem adc_setup_only {P : BusOp Ext → Prop}
    (hrd : P (.rd (Mod.cgu + cguGcr9RwAnaClockDivSel)))
    (hwr : ∀ value, P (.wr value (Mod.cgu + cguGcr9RwAnaClockDivSel)))
    (cgu : Cgu) (adc : Nat) (clk : BitVec 32) (force : Bool) :
    (adcSetup cgu adc clk force : BusProgram ExtAns _).Only P := by
  simp only [adcSetup, only_ite, only_pure, rd_bind_only, wr_bind_only, hrd, hwr, implies_true,
    and_self]

/-- The check of a port with the index 0 always succeeds. -/
theorem cgu_choose_path_settled (h : cgu.Settled) (clkport : ClkPort) :
    cguChoosePath fault version cgu clkport = pure (0, cgu) := by
  simp only [cguChoosePath, h.index]
  rfl

/-- The activation of a port that is not active yet. -/
theorem activate_clocks_idle (h : cgu.Settled) {clkport : ClkPort}
    (hport : cguGetclkInstance mode port = some (some clkport))
    (hidle : (cgu.portSetup clkport.number).active ≠ 1) :
    cgu.activateClocks fault version mode port =
      (do
        let (_ret, cgu) ← adcSetup cgu.masked 0 2 false
        pure (0, cgu.updatePort clkport fun setup => { setup with active := 1 }) :
          BusProgram ExtAns (Int × Cgu)) := by
  have hindex : (cgu.portSetup clkport.number).index.toNat = 0 := by rw [h.index]; rfl
  simp only [Cgu.activateClocks, hport, hidle, if_false, cgu_choose_path_settled h, pure_bind,
    hindex, cguUpdateClk, cgu_system_setup_settled h, adc_clksetup_zero, bind_assoc,
    Int.lt_irrefl, ne_eq, not_true_eq_false]

/-- An activation that does not reach the clocks: the port of the remote control, or an active
port. -/
theorem activate_clocks_none (hport : cguGetclkInstance mode port = some none) :
    cgu.activateClocks fault version mode port = pure (0, cgu) := by
  simp only [Cgu.activateClocks, hport]

/-- An active port is left as it is. -/
theorem activate_clocks_active {clkport : ClkPort}
    (hport : cguGetclkInstance mode port = some (some clkport))
    (hactive : (cgu.portSetup clkport.number).active = 1) :
    cgu.activateClocks fault version mode port = pure (0, cgu) := by
  simp only [Cgu.activateClocks, hport, hactive, if_true]

/-- Activating a port of a settled unit succeeds. -/
theorem activate_clocks_idle_yields (h : cgu.Settled) {clkport : ClkPort}
    (hport : cguGetclkInstance mode port = some (some clkport))
    (hidle : (cgu.portSetup clkport.number).active ≠ 1) :
    (cgu.activateClocks fault version mode port).Yields
      fun result => result.1 = 0 ∧ ∃ adcIn, result.2 = cgu.activated clkport adcIn := by
  rw [activate_clocks_idle h hport hidle, yields_bind]
  refine (adc_setup_yields _ _ _ _).mono fun result hresult => ?_
  obtain ⟨adcIn, hadc⟩ := hresult
  exact ⟨rfl, adcIn, by rw [hadc]; rfl⟩

/-- An accepted activation accesses only the register that selects the clocks of the ADCs. -/
theorem activate_clocks_only {P : BusOp Ext → Prop} (h : cgu.Settled)
    (haccepted : (cguGetclkInstance mode port).isSome)
    (hrd : P (.rd (Mod.cgu + cguGcr9RwAnaClockDivSel)))
    (hwr : ∀ value, P (.wr value (Mod.cgu + cguGcr9RwAnaClockDivSel))) :
    (cgu.activateClocks fault version mode port).Only P := by
  obtain ⟨clkport, hport⟩ := Option.isSome_iff_exists.mp haccepted
  cases clkport with
  | none =>
      rw [activate_clocks_none hport]
      exact only_pure _
  | some clkport =>
      by_cases hactive : (cgu.portSetup clkport.number).active = 1
      · rw [activate_clocks_active hport hactive]
        exact only_pure _
      · rw [activate_clocks_idle h hport hactive]
        exact Only.bind (adc_setup_only hrd hwr _ _ _ _) fun _ => only_pure _

/-- A port's flag does not matter. -/
theorem Cgu.Settled.updatePort (h : cgu.Settled) (clkport : ClkPort) (value : BitVec 8) :
    (cgu.updatePort clkport fun setup => { setup with active := value }).Settled := by
  refine ⟨fun i => ?_, h.inputs, h.vcp, h.stream⟩
  unfold Cgu.updatePort
  dsimp only
  split
  · exact h.index i
  · exact h.index i

/-- An activated state is settled. -/
theorem Cgu.Settled.activated (h : cgu.Settled) (clkport : ClkPort) (adcIn : Nat → BitVec 32) :
    (cgu.activated clkport adcIn).Settled := by
  have hadc : ({ cgu.masked with adcIn := adcIn } : Cgu).Settled :=
    ⟨h.index, h.inputs, h.vcp, h.stream⟩
  exact hadc.updatePort clkport 1

/-- An activation keeps the state settled. -/
theorem activate_clocks_settled (h : cgu.Settled)
    (haccepted : (cguGetclkInstance mode port).isSome) :
    (cgu.activateClocks fault version mode port).Yields fun result => result.2.Settled := by
  obtain ⟨clkport, hport⟩ := Option.isSome_iff_exists.mp haccepted
  cases clkport with
  | none =>
      rw [activate_clocks_none hport]
      exact h
  | some clkport =>
      by_cases hactive : (cgu.portSetup clkport.number).active = 1
      · rw [activate_clocks_active hport hactive]
        exact h
      · refine (activate_clocks_idle_yields h hport hactive).mono fun result hresult => ?_
        obtain ⟨_, adcIn, hcgu⟩ := hresult
        rw [hcgu]
        exact h.activated clkport adcIn

/-! ## Deactivation -/

/-- What `saa7231_set_clk` changes of the unit. -/
theorem set_clk_yields (cgu : Cgu) (domain : Nat) (frequency : ClkFrequency) :
    (setClk cgu domain frequency : BusProgram ExtAns _).Yields fun result =>
      ∃ status : ClkStatus, result.2 = { cgu with clkStatus := status } ∧
        ∀ other, other ≠ domain → status.setup other = cgu.clkStatus.setup other := by
  have houtput : ∀ src div val,
      (setClkOutput cgu domain frequency src div val : BusProgram ExtAns _).Yields fun result =>
        ∃ status : ClkStatus, result.2 = { cgu with clkStatus := status } ∧
          ∀ other, other ≠ domain → status.setup other = cgu.clkStatus.setup other := by
    intro src div val
    exact fun _ => ⟨_, rfl, fun other hother => if_neg hother⟩
  unfold setClk
  simp only [yields_ite, yields_pure]
  refine ⟨fun _ => ⟨_, rfl, fun _ _ => rfl⟩, fun _ => ⟨fun _ => ⟨_, rfl, fun _ _ => rfl⟩,
    fun _ => ⟨fun _ => houtput _ _ _, fun _ => ?_⟩⟩⟩
  cases frequency.output domain with
  | none => exact ⟨_, rfl, fun _ _ => rfl⟩
  | some output => exact houtput _ _ _

/-- Only the set-up of two domains matters. -/
theorem Cgu.Settled.status (h : cgu.Settled) {status : ClkStatus}
    (hvcp : status.setup clkDomainVcp = cgu.clkStatus.setup clkDomainVcp)
    (hstream : status.setup clkDomainStreamPcc = cgu.clkStatus.setup clkDomainStreamPcc) :
    ({ cgu with clkStatus := status } : Cgu).Settled :=
  ⟨h.index, h.inputs, hvcp.trans h.vcp, hstream.trans h.stream⟩

/-- A deactivation marks the port inactive and sets no other output than the one of the CAM. -/
theorem disable_clocks_yields (cgu : Cgu) {clkport : ClkPort}
    (hport : cguGetclkInstance mode port = some (some clkport)) :
    (cgu.disableClocks mode port : BusProgram ExtAns _).Yields fun result =>
      ∃ status : ClkStatus,
        result.2 = { cgu.updatePort clkport fun setup => { setup with active := 0 } with
          clkStatus := status } ∧
        ∀ other, other ≠ clkDomainTsoutCaextPcc →
          status.setup other = cgu.clkStatus.setup other := by
  simp only [Cgu.disableClocks, hport]
  cases hoff : clkOff (cgu.updatePort clkport fun setup => { setup with active := 0 }) clkport with
  | none => exact ⟨_, rfl, fun _ _ => rfl⟩
  | some clkOut =>
      have hcam : clkOut = clkDomainTsoutCaextPcc := by
        unfold clkOff at hoff
        grind
      rw [hcam]
      simp only [yields_bind]
      exact (set_clk_yields _ _ _).mono fun _ hresult => hresult

/-- A deactivation of a pair without a clock port. -/
theorem disable_clocks_none (hport : ∀ clkport, cguGetclkInstance mode port ≠ some (some clkport)) :
    (cgu.disableClocks mode port : BusProgram ExtAns _) = pure (-einval, cgu) := by
  unfold Cgu.disableClocks
  cases hinstance : cguGetclkInstance mode port with
  | none => rfl
  | some instance' =>
      cases instance' with
      | none => rfl
      | some clkport => exact absurd hinstance (hport clkport)

/-- Disabling the clocks keeps the state settled. -/
theorem disable_clocks_settled (h : cgu.Settled) (mode : Mode) (port : Nat) :
    (cgu.disableClocks mode port : BusProgram ExtAns _).Yields fun result => result.2.Settled := by
  by_cases hport : ∃ clkport, cguGetclkInstance mode port = some (some clkport)
  · obtain ⟨clkport, hport⟩ := hport
    refine (disable_clocks_yields cgu hport).mono fun result hresult => ?_
    obtain ⟨status, hcgu, hstatus⟩ := hresult
    rw [hcgu]
    exact (h.updatePort clkport 0).status (hstatus _ (by decide)) (hstatus _ (by decide))
  · rw [disable_clocks_none (not_exists.mp hport)]
    exact h

/-! ## Initialisation -/

/-- The loop of `saa7231_cgu_init` before output `domain`: the outputs from there on are off, those
before have their first preset. `saa7231_set_clk` leaves the clock of the PCC alone. -/
structure Cgu.SetUpTo (start : Cgu) (domain : Nat) (cgu : Cgu) : Prop where
  status : ∃ status : ClkStatus, cgu = { start with clkStatus := status }
  off : ∀ i, domain ≤ i → cgu.clkStatus.freq i = .off
  setup : ∀ i < domain, i ≠ clkDomainPcc → cgu.clkStatus.setup i =
    ⟨(clkOutPreset i 0).1, if (clkOutPreset i 0).2 = 0 then 0 else (clkOutPreset i 0).2 - 1, 0⟩

/-- One more domain is set up. -/
theorem set_clk_set_up {start : Cgu} {domain : Nat} (h : start.SetUpTo domain cgu) :
    (setClk cgu domain .usecase : BusProgram ExtAns _).Yields
      fun result => start.SetUpTo (domain + 1) result.2 := by
  obtain ⟨status, hstatus⟩ := h.status
  unfold setClk
  rw [if_neg (by simp)]
  by_cases hpcc : domain = clkDomainPcc
  · rw [if_pos hpcc]
    refine ⟨h.status, fun i hi => h.off i (Nat.le_of_succ_le hi), fun i hi hne => ?_⟩
    exact h.setup i (by omega) hne
  · rw [if_neg hpcc, if_neg (by rw [h.off domain le_rfl]; decide)]
    refine fun _ => ⟨⟨_, by rw [hstatus]⟩, fun i hi => ?_, fun i hi hne => ?_⟩
    · exact (if_neg (by omega)).trans (h.off i (by omega))
    · dsimp only [ClkStatus.record]
      by_cases heq : i = domain
      · rw [if_pos heq, heq]
      · rw [if_neg heq]
        exact h.setup i (by omega) hne

/-- All of them are. -/
theorem set_clks_set_up {start : Cgu} {domain : Nat} (h : start.SetUpTo domain cgu) (n : Nat) :
    (setClks domain n cgu : BusProgram ExtAns Cgu).Yields
      fun result => start.SetUpTo (domain + n) result := by
  induction n generalizing domain cgu with
  | zero => exact h
  | succ n ih =>
      simp only [setClks, yields_bind]
      refine (set_clk_set_up h).mono fun result hresult => ?_
      have hrest := ih hresult
      rwa [show domain + 1 + n = domain + (n + 1) by omega] at hrest

/-- The unit that `saa7231_cgu_init` leaves. -/
structure Cgu.Fresh (cgu : Cgu) : Prop where
  settled : cgu.Settled
  ports : ∀ i, (cgu.portSetup i).active = 0
  clkin : cgu.clkinSetup = 0

/-- At first none is. -/
theorem cgu_rooted_set_up (rootClk : CguRootclk) :
    (Cgu.rooted rootClk).SetUpTo 0 (Cgu.rooted rootClk) := by
  refine ⟨⟨_, rfl⟩, fun i _ => ?_, fun i hi => absurd hi (Nat.not_lt_zero i)⟩
  cases rootClk <;> rfl

/-- The initialisation leaves the clocks of the video and stream outputs in their first preset. -/
theorem cgu_program_fresh (fault : BusProgram ExtAns Unit) (verbose : Bool)
    (rootClk : CguRootclk) : (cguProgram fault verbose rootClk).Yields Cgu.Fresh := by
  simp only [cguProgram, yields_bind]
  refine Yields.of_forall fun _ => ?_
  refine (set_clks_set_up (cgu_rooted_set_up rootClk) clkDomainClocks).mono fun cgu hcgu => ?_
  refine Yields.of_forall fun _ => Yields.of_forall fun _ => ?_
  refine (set_clk_yields cgu clkDomainExtCa .off).mono fun result hresult => ?_
  obtain ⟨status, hresult, hothers⟩ := hresult
  obtain ⟨_, hstart⟩ := hcgu.status
  have hports : ∀ i, cgu.portSetup i = ⟨0, 0, 0⟩ := by
    intro i
    rw [hstart]
    cases rootClk <;> rfl
  have hinputs : ∀ i, cgu.clkIn i = ⟨0, 0⟩ := by
    intro i
    rw [hstart]
    cases rootClk <;> rfl
  have hclkin : cgu.clkinSetup = 0 := by
    rw [hstart]
    cases rootClk <;> rfl
  have hvcp := (hothers clkDomainVcp (by decide)).trans
    (hcgu.setup clkDomainVcp (by decide) (by decide))
  have hstream := (hothers clkDomainStreamPcc (by decide)).trans
    (hcgu.setup clkDomainStreamPcc (by decide) (by decide))
  rw [hresult]
  -- The last call changes the record of the external CA output only.
  refine fun _ => ⟨⟨fun i => ?_, fun i => ?_, hvcp, hstream⟩, fun i => ?_, hclkin⟩
  · exact congrArg PortSetup.index (hports i)
  · exact congrArg ClkIn.active (hinputs i)
  · exact congrArg PortSetup.active (hports i)

end Settled

end Saa7231
