import Saa7231.Cgu.Outputs
import Saa7231.Hardware.Frame

/-!
# The record of the outputs and their registers

`clk_status` records what was written to the output registers, so that `saa7231_set_clk` and
`cgu_system_setup` can tell what is there. The record goes wrong in three ways: an output that is
recorded as off and switched off again is enabled, the crystal output is recorded as off without
being written, and `cgu_system_setup` writes the outputs above 14 eight registers too low.
`record_matches_iff` says that there is no other way.
-/

namespace Saa7231

open Interaction Bus Program

/-! ## Calls -/

/-- The setup of an output in a preset, as `cgu_system_setup` records it. -/
def presetSetup (preset domain : Nat) : ClkSetup :=
  let presetSel := entry clkoutSel domain preset
  ⟨(clkOutPreset domain (presetSel - 1)).1, presetDivider (clkOutPreset domain (presetSel - 1)).2,
    BitVec.ofNat 32 (presetSel - 1)⟩

/-- `cgu_system_setup` sets the output: the preset has a setup for it, and another one is
recorded. -/
def ClkStatus.Resets (status : ClkStatus) (preset domain : Nat) : Prop :=
  ¬ (domain = clkDomainPcc ∨ domain = clkDomainCtrlPcc ∨ domain = clkDomainXtalDcsn) ∧
    entry clkoutSel domain preset ≠ 0 ∧
    ((clkOutPreset domain (entry clkoutSel domain preset - 1)).2 - 1 ≠ (status.setup domain).div ∨
      (presetSetup preset domain).clkIn ≠ (status.setup domain).clkIn ∨
      (presetSetup preset domain).preset ≠ (status.setup domain).preset)

instance (status : ClkStatus) (preset domain : Nat) : Decidable (status.Resets preset domain) :=
  inferInstanceAs (Decidable (_ ∧ _))

/-- A call of `saa7231_set_clk` or `cgu_system_setup`. -/
inductive OutputCall where
  | setClk (domain : Nat) (frequency : ClkFrequency)
  | systemSetup (clockindex : Nat)

namespace OutputCall

/-- The arguments that the functions take. -/
def Valid : OutputCall → Prop
  | .setClk domain frequency =>
      domain < clkDomainClocks ∧ domain ≠ clkDomainPcc ∧ frequency ≠ .no
  | .systemSetup clockindex => clockindex < saa7231Clocks

def program (call : OutputCall) (cgu : Cgu) : BoardProgram (Int × Cgu) :=
  match call with
  | .setClk domain frequency => Saa7231.setClk cgu domain frequency
  | .systemSetup clockindex => cguSystemSetup bug cgu clockindex

/-- The outputs that the call sets. -/
def touches (call : OutputCall) (status : ClkStatus) (domain : Nat) : Bool :=
  match call with
  | .setClk target _ => domain = target
  | .systemSetup clockindex =>
      decide (domain < clkDomainClocks ∧ status.Resets (clkSel.getD clockindex 0) domain)

end OutputCall

/-- The clock unit, and the outputs that were set so far. -/
structure OutputState where
  clocks : ClockState
  touched : Nat → Bool

namespace OutputState

def step (env : Environment) (state : OutputState) (call : OutputCall) : OutputState where
  clocks := state.clocks.after env call.program
  touched := fun domain =>
    state.touched domain || call.touches state.clocks.cgu.clkStatus domain

/-- A zeroed unit on a board with any registers. -/
def zero (board : Board) : OutputState := ⟨⟨.zero, board⟩, fun _ => false⟩

end OutputState

/-- The value of the register at which `saa7231_set_clk` addresses an output. -/
def ClockState.output (state : ClockState) (domain : Nat) : BitVec 32 :=
  state.board.regs (Mod.cgu + clkoutReg domain)

/-- The fields of the value are the recorded ones, and the output is disabled exactly when it is
recorded as off. -/
structure Records (setup : ClkSetup) (frequency : ClkFrequency) (value : BitVec 32) : Prop where
  source : sourceField value = setup.clkIn
  divider : dividerField value = setup.div
  enable : enableField value = clockDisable ↔ frequency = .off

/-- The register holds what is recorded of the output. -/
def ClockState.Shows (state : ClockState) (domain : Nat) : Prop :=
  Records (state.cgu.clkStatus.setup domain) (state.cgu.clkStatus.freq domain)
    (state.output domain)

/-- The registers of all outputs that were set hold what is recorded of them. -/
def OutputState.Matches (state : OutputState) : Prop :=
  ∀ domain, state.touched domain → state.clocks.Shows domain

/-- The call avoids the three ways in which the record goes wrong. Where it does not write the
register of an output, that register has to hold already what the call records. -/
def OutputCall.Faithful (state : ClockState) : OutputCall → Prop
  | .setClk domain frequency => frequency = .off →
      if domain = clkDomainXtalDcsn then
        HoldsOutput (state.output domain) (state.cgu.clkStatus.setup domain).clkIn
          (state.cgu.clkStatus.setup domain).div clockDisable
      else state.cgu.clkStatus.freq domain ≠ .off
  | .systemSetup clockindex => ∀ domain < clkDomainClocks, clkDomainTsoutCaextPcc < domain →
      state.cgu.clkStatus.Resets (clkSel.getD clockindex 0) domain →
        HoldsOutput (state.output domain) (presetSetup (clkSel.getD clockindex 0) domain).clkIn
          (presetSetup (clkSel.getD clockindex 0) domain).div clockEnable

/-! ## `cgu_system_setup` -/

section SystemSetup

variable {env : Environment} {start state : ClockState} {preset domain : Nat}

/-- An iteration sets the output or leaves everything alone. -/
theorem setup_output_eq (preset domain : Nat) (cgu : Cgu) :
    (setupOutput preset domain cgu : BoardProgram Cgu) =
      if cgu.clkStatus.Resets preset domain then do
        wr ((presetSetup preset domain).clkIn <<< 24 ||| (presetSetup preset domain).div <<< 2 |||
          1#32 <<< 11) (Mod.cgu + clkout domain)
        pure { cgu with
          clkStatus := cgu.clkStatus.record domain (presetSetup preset domain) .usecase
          clkoutSetup := cgu.clkoutSetup ||| clkoutPresetMask.getD preset 0 }
      else pure cgu := by
  unfold setupOutput
  by_cases hskip : domain = clkDomainPcc ∨ domain = clkDomainCtrlPcc ∨ domain = clkDomainXtalDcsn
  · rw [if_pos hskip, if_neg fun h => h.1 hskip]
  · rw [if_neg hskip]
    by_cases hzero : entry clkoutSel domain preset = 0
    · dsimp only
      rw [if_pos hzero, if_neg fun h => h.2.1 hzero]
    · dsimp only
      rw [if_neg hzero]
      refine if_congr ?_ rfl rfl
      exact ⟨fun h => ⟨hskip, hzero, h⟩, fun h => h.2.2⟩

/-- The second loop before output `domain`: the outputs below are set where the preset asks for it,
at the registers of `CLKOUT`. -/
structure ClockState.PresetUpTo (start : ClockState) (preset domain : Nat) (state : ClockState) :
    Prop where
  freq : ∀ i, state.cgu.clkStatus.freq i =
    if i < domain ∧ start.cgu.clkStatus.Resets preset i then .usecase
    else start.cgu.clkStatus.freq i
  setup : ∀ i, state.cgu.clkStatus.setup i =
    if i < domain ∧ start.cgu.clkStatus.Resets preset i then presetSetup preset i
    else start.cgu.clkStatus.setup i
  regs : ∀ i, state.board.regs (Mod.cgu + clkout i) =
    if i < domain ∧ start.cgu.clkStatus.Resets preset i then
      (presetSetup preset i).clkIn <<< 24 ||| (presetSetup preset i).div <<< 2 ||| 1#32 <<< 11
    else start.board.regs (Mod.cgu + clkout i)
  inputs : state.cgu.clkIn = start.cgu.clkIn

theorem clkout_injective {i other : Nat} (h : Mod.cgu + clkout i = Mod.cgu + clkout other) :
    i = other := by
  unfold clkout at h
  omega

/-- The state after an iteration. -/
def ClockState.presetOutput (state : ClockState) (preset domain : Nat) (env : Environment) :
    ClockState :=
  let result := (setupOutput preset domain state.cgu).run (boardWorld env) state.board
  ⟨result.1, result.2⟩

/-- A table that is filled up to an entry, after the next one. -/
theorem filled_next {α : Type} {R : Nat → Prop} [DecidablePred R] {new old table next : Nat → α}
    (htable : ∀ i, table i = if i < domain ∧ R i then new i else old i)
    (hhere : next domain = if R domain then new domain else table domain)
    (hothers : ∀ i ≠ domain, next i = table i) (i : Nat) :
    next i = if i < domain + 1 ∧ R i then new i else old i := by
  by_cases heq : i = domain
  · have hold : table domain = old domain :=
      (htable domain).trans (if_neg fun hlt => Nat.lt_irrefl domain hlt.1)
    have hsame : domain < domain + 1 ∧ R domain ↔ R domain := and_iff_right domain.lt_succ_self
    rw [heq, hhere, hold]
    exact (if_congr hsame rfl rfl).symm
  · have hsame : i < domain + 1 ∧ R i ↔ i < domain ∧ R i := and_congr_left fun _ => by omega
    rw [hothers i heq, htable]
    exact (if_congr hsame rfl rfl).symm

theorem ClockState.PresetUpTo.next (h : start.PresetUpTo preset domain state)
    (env : Environment) :
    start.PresetUpTo preset (domain + 1) (state.presetOutput preset domain env) := by
  have hsame : state.cgu.clkStatus.setup domain = start.cgu.clkStatus.setup domain :=
    (h.setup domain).trans (if_neg fun hlt => absurd hlt.1 (Nat.lt_irrefl _))
  have hresets : state.cgu.clkStatus.Resets preset domain ↔
      start.cgu.clkStatus.Resets preset domain := by
    unfold ClkStatus.Resets
    rw [hsame]
  unfold ClockState.presetOutput
  rw [setup_output_eq]
  by_cases hreset : start.cgu.clkStatus.Resets preset domain
  · rw [if_pos (hresets.mpr hreset)]
    refine ⟨filled_next h.freq ?_ ?_, filled_next h.setup ?_ ?_, filled_next h.regs ?_ ?_, h.inputs⟩
    · rw [if_pos hreset]
      exact record_freq_self
    · exact fun i hne => record_freq_of_ne hne
    · rw [if_pos hreset]
      exact record_setup_self
    · exact fun i hne => record_setup_of_ne hne
    · rw [if_pos hreset]
      exact Function.update_self _ _ _
    · exact fun i hne => Function.update_of_ne (fun hreg => hne (clkout_injective hreg)) _ _
  · rw [if_neg fun hset => hreset (hresets.mp hset)]
    exact ⟨filled_next h.freq (if_neg hreset).symm fun _ _ => rfl,
      filled_next h.setup (if_neg hreset).symm fun _ _ => rfl,
      filled_next h.regs (if_neg hreset).symm fun _ _ => rfl, h.inputs⟩

theorem setup_outputs_preset (env : Environment) (h : start.PresetUpTo preset domain state)
    (n : Nat) :
    start.PresetUpTo preset (domain + n)
      ⟨((setupOutputs preset domain n state.cgu).run (boardWorld env) state.board).1,
        ((setupOutputs preset domain n state.cgu).run (boardWorld env) state.board).2⟩ := by
  induction n generalizing domain state with
  | zero => exact h
  | succ n ih =>
      have hnext := ih (h.next env)
      rw [show domain + 1 + n = domain + (n + 1) by omega] at hnext
      rw [setupOutputs, run_bind]
      exact hnext

/-- With inactive inputs `cgu_system_setup` consists of its second loop. -/
theorem cgu_system_setup_inactive {cgu : Cgu} (h : ∀ i, (cgu.clkIn i).active = 0)
    (clockindex : Nat) :
    ∃ mask, cguSystemSetup bug cgu clockindex =
      (do
        let cgu ← setupOutputs (clkSel.getD clockindex 0) 0 clkDomainClocks
          { cgu with clkinSetup := mask }
        pure (0, { cgu with
          clkoutSetup := cgu.clkoutSetup ||| clkoutPresetMask.getD (clkSel.getD clockindex 0) 0 }) :
        BoardProgram (Int × Cgu)) := by
  unfold cguSystemSetup
  dsimp only
  split
  next =>
    rw [setup_inputs_inactive h]
    exact ⟨_, rfl⟩
  next => exact ⟨cgu.clkinSetup, rfl⟩

theorem ClockState.after_system_setup (env : Environment) (h : ∀ i, (state.cgu.clkIn i).active = 0)
    (clockindex : Nat) :
    state.PresetUpTo (clkSel.getD clockindex 0) clkDomainClocks
      (state.after env (OutputCall.systemSetup clockindex).program) := by
  obtain ⟨mask, hprogram⟩ := cgu_system_setup_inactive h clockindex
  have hstart : state.PresetUpTo (clkSel.getD clockindex 0) 0
      ⟨{ state.cgu with clkinSetup := mask }, state.board⟩ :=
    ⟨fun _ => (if_neg fun hlt => Nat.not_lt_zero _ hlt.1).symm,
      fun _ => (if_neg fun hlt => Nat.not_lt_zero _ hlt.1).symm,
      fun _ => (if_neg fun hlt => Nat.not_lt_zero _ hlt.1).symm, rfl⟩
  have hloop := setup_outputs_preset env hstart clkDomainClocks
  unfold ClockState.after OutputCall.program
  dsimp only
  rw [hprogram, run_bind]
  rw [Nat.zero_add] at hloop
  exact ⟨hloop.freq, hloop.setup, hloop.regs, hloop.inputs⟩

end SystemSetup

/-! ## What a call does to the record of an output -/

section Shows

variable {env : Environment} {state : ClockState} {domain other : Nat} {frequency : ClkFrequency}

theorem ClockState.shows_congr {after : ClockState}
    (hsetup : after.cgu.clkStatus.setup other = state.cgu.clkStatus.setup other)
    (hfreq : after.cgu.clkStatus.freq other = state.cgu.clkStatus.freq other)
    (houtput : after.output other = state.output other) :
    after.Shows other ↔ state.Shows other := by
  unfold ClockState.Shows
  rw [hsetup, hfreq, houtput]

/-- What the fields of a register hold is recorded. -/
theorem HoldsOutput.records {value : BitVec 32} {setup : ClkSetup} {ena : BitVec 32}
    (h : HoldsOutput value setup.clkIn setup.div ena)
    (hena : ena = clockDisable ↔ frequency = .off) : Records setup frequency value :=
  ⟨h.source, h.divider, by rw [h.enable]; exact hena⟩

/-- `saa7231_set_clk` leaves the other outputs alone. -/
theorem ClockState.set_clk_others (hother : other ≠ domain) :
    (state.after env (OutputCall.setClk domain frequency).program).Shows other ↔
      state.Shows other := by
  have hreg : Mod.cgu + clkoutReg other ≠ Mod.cgu + clkoutReg domain := fun hreg =>
    hother (clkout_reg_injective (Nat.add_left_cancel hreg))
  rcases set_clk_cases state.cgu domain frequency with
    ⟨src, div, val, hset⟩ | ⟨ret, cgu, hset, hfreq, hsetup, _⟩
  · rw [ClockState.after_set_clk_output (OutputCall.setClk domain frequency).program
      hset]
    exact ClockState.shows_congr (record_setup_of_ne hother) (record_freq_of_ne hother)
      (Function.update_of_ne hreg _ _)
  · rw [ClockState.after_pure (OutputCall.setClk domain frequency).program hset]
    exact ClockState.shows_congr (congrFun hsetup other) (hfreq other hother) rfl

/-- An output that was set shows what was written to it. -/
theorem ClockState.set_output_shows {program : Cgu → BoardProgram (Int × Cgu)}
    {src div val : BitVec 32}
    (h : program state.cgu = setClkOutput state.cgu domain frequency src div val) :
    (state.after env program).Shows domain ↔ Records ⟨src, div, 0⟩ frequency val := by
  have houtput : (state.board.write val (Mod.cgu + clkoutReg domain)).regs
      (Mod.cgu + clkoutReg domain) = val := Function.update_self _ _ _
  rw [ClockState.after_set_clk_output program h]
  unfold ClockState.Shows ClockState.output
  rw [houtput, record_setup_self, record_freq_self]

/-- The crystal output shows that it is off exactly when its register said so before. -/
theorem ClockState.set_xtal_shows :
    (state.after env (OutputCall.setClk clkDomainXtalDcsn .off).program).Shows clkDomainXtalDcsn ↔
      HoldsOutput (state.output clkDomainXtalDcsn)
        (state.cgu.clkStatus.setup clkDomainXtalDcsn).clkIn
        (state.cgu.clkStatus.setup clkDomainXtalDcsn).div clockDisable := by
  rw [ClockState.after_pure (OutputCall.setClk clkDomainXtalDcsn .off).program
    set_clk_xtal]
  show Records _ .off _ ↔ _
  constructor
  · exact fun h => ⟨h.source, h.divider, h.enable.mpr rfl⟩
  · exact fun h => h.records (iff_of_true rfl rfl)

/-- The output that is set shows its record exactly when the call is faithful. -/
theorem ClockState.set_clk_shows (hpcc : domain ≠ clkDomainPcc) (hno : frequency ≠ .no) :
    (state.after env (OutputCall.setClk domain frequency).program).Shows domain ↔
      (OutputCall.setClk domain frequency).Faithful state := by
  by_cases hxtal : frequency = .off ∧ domain = clkDomainXtalDcsn
  · obtain ⟨rfl, rfl⟩ := hxtal
    rw [ClockState.set_xtal_shows]
    show _ ↔ (_ → if _ then _ else _)
    rw [if_pos rfl, forall_prop_of_true rfl]
  · have hfaithful : (OutputCall.setClk domain frequency).Faithful state ↔
        (frequency = .off → state.cgu.clkStatus.freq domain ≠ .off) := by
      refine forall_congr' fun hoff => ?_
      rw [if_neg fun hdomain => hxtal ⟨hoff, hdomain⟩]
    rw [hfaithful]
    by_cases hsame : frequency = state.cgu.clkStatus.freq domain
    · rw [ClockState.set_output_shows (set_clk_same hpcc hxtal hsame), ← hsame]
      constructor
      · intro h hoff
        exact absurd (h.enable.mpr hoff) (by decide)
      · intro h
        exact zero_holds.records (iff_of_false (by decide) fun hoff => h hoff hoff)
    · obtain ⟨div, ena, houtput⟩ := output_of_ne_no hno domain
      obtain ⟨hdiv, hena, hdisable⟩ := output_fits houtput
      rw [ClockState.set_output_shows (set_clk_new hpcc hxtal hsame houtput)]
      have hholds := output_value_holds (clk_out_preset_fits domain 0).1 hdiv hena
      exact iff_of_true (hholds.records hdisable) fun hoff hrecorded =>
        hsame (hoff.trans hrecorded.symm)

/-- `cgu_system_setup` never writes the register of an output above 14. -/
theorem ClockState.system_setup_high_output (hinputs : ∀ i, (state.cgu.clkIn i).active = 0)
    (clockindex : Nat) (hhigh : ¬ other ≤ clkDomainTsoutCaextPcc) :
    (state.after env (OutputCall.systemSetup clockindex).program).output other =
      state.output other := by
  have hsetup := ClockState.after_system_setup env hinputs clockindex
  have hnone : ¬ (other + 8 < clkDomainClocks ∧
      state.cgu.clkStatus.Resets (clkSel.getD clockindex 0) (other + 8)) := by
    rintro ⟨hlt, -⟩
    unfold clkDomainTsoutCaextPcc at hhigh
    unfold clkDomainClocks at hlt
    omega
  unfold ClockState.output clkoutReg
  rw [if_neg hhigh]
  exact (hsetup.regs (other + 8)).trans (if_neg hnone)

/-- `cgu_system_setup` leaves an output alone that it does not set. -/
theorem ClockState.system_setup_others (hinputs : ∀ i, (state.cgu.clkIn i).active = 0)
    {clockindex : Nat} (hother : ¬ (other < clkDomainClocks ∧
      state.cgu.clkStatus.Resets (clkSel.getD clockindex 0) other)) :
    (state.after env (OutputCall.systemSetup clockindex).program).Shows other ↔
      state.Shows other := by
  have hsetup := ClockState.after_system_setup env hinputs clockindex
  refine ClockState.shows_congr ((hsetup.setup other).trans (if_neg hother))
    ((hsetup.freq other).trans (if_neg hother)) ?_
  by_cases hlow : other ≤ clkDomainTsoutCaextPcc
  · unfold ClockState.output clkoutReg
    rw [if_pos hlow]
    exact (hsetup.regs other).trans (if_neg hother)
  · exact ClockState.system_setup_high_output hinputs clockindex hlow

/-- What `cgu_system_setup` writes holds the setup of the preset. -/
theorem preset_value_holds (preset domain : Nat) :
    HoldsOutput ((presetSetup preset domain).clkIn <<< 24 |||
        (presetSetup preset domain).div <<< 2 ||| 1#32 <<< 11)
      (presetSetup preset domain).clkIn (presetSetup preset domain).div clockEnable := by
  have hfits := clk_out_preset_fits domain (entry clkoutSel domain preset - 1)
  have hholds := output_value_holds hfits.1 (preset_divider_lt hfits.2)
    (show (0#32).toNat < 2 by decide)
  rw [BitVec.or_zero] at hholds
  exact hholds

/-- An output up to 14 shows what `cgu_system_setup` wrote to it. -/
theorem ClockState.system_setup_low (hinputs : ∀ i, (state.cgu.clkIn i).active = 0)
    {clockindex : Nat} (hlow : domain ≤ clkDomainTsoutCaextPcc)
    (hreset : state.cgu.clkStatus.Resets (clkSel.getD clockindex 0) domain) :
    (state.after env (OutputCall.systemSetup clockindex).program).Shows domain := by
  have hsetup := ClockState.after_system_setup env hinputs clockindex
  have hset : domain < clkDomainClocks ∧
      state.cgu.clkStatus.Resets (clkSel.getD clockindex 0) domain :=
    ⟨Nat.lt_of_le_of_lt hlow (by decide), hreset⟩
  have hregs := hsetup.regs domain
  rw [if_pos hset] at hregs
  unfold ClockState.Shows ClockState.output clkoutReg
  rw [if_pos hlow, hregs, hsetup.setup, hsetup.freq, if_pos hset, if_pos hset]
  exact (preset_value_holds _ _).records (iff_of_false (by decide) (by decide))

/-- An output above 14 shows its record exactly when its register did not need the write. -/
theorem ClockState.system_setup_high (hinputs : ∀ i, (state.cgu.clkIn i).active = 0)
    {clockindex : Nat} (hhigh : ¬ domain ≤ clkDomainTsoutCaextPcc)
    (hset : domain < clkDomainClocks ∧
      state.cgu.clkStatus.Resets (clkSel.getD clockindex 0) domain) :
    (state.after env (OutputCall.systemSetup clockindex).program).Shows domain ↔
      HoldsOutput (state.output domain) (presetSetup (clkSel.getD clockindex 0) domain).clkIn
        (presetSetup (clkSel.getD clockindex 0) domain).div clockEnable := by
  have hsetup := ClockState.after_system_setup env hinputs clockindex
  unfold ClockState.Shows
  rw [ClockState.system_setup_high_output hinputs clockindex hhigh, hsetup.setup, hsetup.freq,
    if_pos hset, if_pos hset]
  constructor
  · intro h
    refine ⟨h.source, h.divider, ?_⟩
    have hne : enableField (state.output domain) ≠ clockDisable := fun hdisable =>
      absurd (h.enable.mp hdisable) (by decide)
    exact (enable_field_cases _).resolve_right hne
  · exact fun h => h.records (iff_of_false (by decide) (by decide))

end Shows

/-! ## Runs -/

/-- No input is active, and every output that was set shows its record. -/
structure OutputState.Sound (state : OutputState) : Prop where
  inputs : ∀ i, (state.clocks.cgu.clkIn i).active = 0
  matched : state.Matches

variable {env : Environment} {state : OutputState} {call : OutputCall}

theorem OutputState.step_inputs (h : ∀ i, (state.clocks.cgu.clkIn i).active = 0)
    (call : OutputCall) (i : Nat) : ((state.step env call).clocks.cgu.clkIn i).active = 0 := by
  cases call with
  | setClk domain frequency =>
      show ((state.clocks.after env (OutputCall.setClk domain frequency).program).cgu.clkIn
        i).active = 0
      rcases set_clk_cases state.clocks.cgu domain frequency with
        ⟨src, div, val, hset⟩ | ⟨ret, cgu, hset, _, _, hclkIn⟩
      · rw [ClockState.after_set_clk_output
          (OutputCall.setClk domain frequency).program hset]
        exact h i
      · rw [ClockState.after_pure (OutputCall.setClk domain frequency).program hset,
          hclkIn]
        exact h i
  | systemSetup clockindex =>
      show ((state.clocks.after env (OutputCall.systemSetup clockindex).program).cgu.clkIn
        i).active = 0
      rw [(ClockState.after_system_setup env h clockindex).inputs]
      exact h i

/-- A faithful call leaves every output that was set with its record. -/
theorem OutputState.matches_of_faithful (h : state.Sound) (hvalid : call.Valid)
    (hfaithful : call.Faithful state.clocks) : (state.step env call).Matches := by
  intro domain htouched
  have htouched := Bool.or_eq_true_iff.mp htouched
  cases call with
  | setClk target frequency =>
      obtain ⟨_, hpcc, hno⟩ := hvalid
      by_cases heq : domain = target
      · rw [heq]
        exact (ClockState.set_clk_shows hpcc hno).mpr hfaithful
      · have hbefore := htouched.resolve_right fun htarget => heq (of_decide_eq_true htarget)
        exact (ClockState.set_clk_others heq).mpr (h.matched domain hbefore)
  | systemSetup clockindex =>
      by_cases hset : domain < clkDomainClocks ∧
          state.clocks.cgu.clkStatus.Resets (clkSel.getD clockindex 0) domain
      · by_cases hlow : domain ≤ clkDomainTsoutCaextPcc
        · exact ClockState.system_setup_low h.inputs hlow hset.2
        · refine (ClockState.system_setup_high h.inputs hlow hset).mpr ?_
          exact hfaithful domain hset.1 (Nat.lt_of_not_le hlow) hset.2
      · have hbefore := htouched.resolve_right fun hsets => hset (of_decide_eq_true hsets)
        exact (ClockState.system_setup_others h.inputs hset).mpr (h.matched domain hbefore)

/-- A call that is not faithful leaves an output that it set without its record. -/
theorem OutputState.faithful_of_matches (h : state.Sound) (hvalid : call.Valid)
    (hmatches : (state.step env call).Matches) : call.Faithful state.clocks := by
  have hshows : ∀ domain, call.touches state.clocks.cgu.clkStatus domain →
      (state.step env call).clocks.Shows domain := fun domain htouches =>
    hmatches domain (Bool.or_eq_true_iff.mpr (Or.inr htouches))
  cases call with
  | setClk target frequency =>
      obtain ⟨_, hpcc, hno⟩ := hvalid
      exact (ClockState.set_clk_shows hpcc hno).mp (hshows target (decide_eq_true rfl))
  | systemSetup clockindex =>
      intro domain hdomain hhigh hreset
      have hset : domain < clkDomainClocks ∧
          state.clocks.cgu.clkStatus.Resets (clkSel.getD clockindex 0) domain := ⟨hdomain, hreset⟩
      exact (ClockState.system_setup_high h.inputs (Nat.not_le.mpr hhigh) hset).mp
        (hshows domain (decide_eq_true hset))

theorem OutputState.zero_sound (board : Board) : (OutputState.zero board).Sound :=
  ⟨fun _ => rfl, fun _ htouched => absurd htouched Bool.false_ne_true⟩

/-- From a zeroed unit, on a board with any registers: the registers of the outputs that were set so
far hold what is recorded of them throughout a run exactly when every call is faithful. -/
theorem record_matches_iff (env : Environment) (board : Board) (calls : List OutputCall)
    (hvalid : ∀ call ∈ calls, call.Valid) :
    Always (OutputState.step env) OutputState.Matches (.zero board) calls ↔
      Each (OutputState.step env) (fun state call => call.Faithful state.clocks)
        (.zero board) calls := by
  refine always_iff_each (OutputState.zero_sound board) (fun _ h => h.matched) ?_ ?_
    (each_iff_forall_mem.mpr hvalid)
  · exact fun state call h hcall hfaithful =>
      ⟨OutputState.step_inputs h.inputs call, OutputState.matches_of_faithful h hcall hfaithful⟩
  · exact fun state call h hcall hunfaithful hmatches =>
      hunfaithful (OutputState.faithful_of_matches h hcall hmatches)

/-- An output is set to its use case and then to the low frequency. -/
theorem use_case_then_low_matches :
    Always (OutputState.step .plain) OutputState.Matches (.zero .reset)
      [.setClk 1 .usecase, .setClk 1 .low] := by
  refine (record_matches_iff .plain .reset [.setClk 1 .usecase, .setClk 1 .low] ?_).mpr ?_
  · intro call hcall
    rcases List.mem_cons.mp hcall with rfl | hcall
    · exact ⟨by decide, by decide, by decide⟩
    · rw [List.mem_singleton.mp hcall]
      exact ⟨by decide, by decide, by decide⟩
  · exact ⟨ClkFrequency.noConfusion, ClkFrequency.noConfusion, trivial⟩

/-- The first output is switched off before it was ever on; the preset 4 sets the output 18. -/
theorem off_again_not_recorded :
    ¬ Always (OutputState.step .plain) OutputState.Matches (.zero .reset) [.setClk 1 .off] ∧
      ¬ Always (OutputState.step .plain) OutputState.Matches (.zero .reset)
        [.systemSetup 19] := by
  constructor
  · rintro ⟨_, hmatches⟩
    have hvalid : OutputCall.Valid (.setClk 1 .off) := ⟨by decide, by decide, by decide⟩
    have hfaithful := OutputState.faithful_of_matches (OutputState.zero_sound .reset) hvalid
      hmatches
    exact hfaithful rfl rfl
  · rintro ⟨_, hmatches⟩
    have hvalid : OutputCall.Valid (.systemSetup 19) := show 19 < 24 by omega
    have hfaithful := OutputState.faithful_of_matches (OutputState.zero_sound .reset) hvalid
      hmatches
    have hdivider := (hfaithful 18 (by decide) (by decide) (by decide)).divider
    exact absurd hdivider (by decide)

end Saa7231
