import Mathlib.Algebra.Group.Nat.Defs
import Mathlib.Data.List.GetD
import Saa7231.Cgu.Runs

/-!
# The registers of the clock outputs

An output register holds the number of the source in its top byte, the divider above the two lowest
bits and the enable field in bit 0. `set_clk_same` and `set_clk_new` say what `saa7231_set_clk`
writes there. The first one is the case in which the output has the frequency already: the register
is cleared, which enables the output.
-/

namespace Saa7231

open Interaction Bus Program

/-! ## Fields -/

/-- `CLOCK_ENABLE` and `CLOCK_DISABLE`. -/
def clockEnable : BitVec 32 := 0
def clockDisable : BitVec 32 := 1

/-- The field at `OUTCLOCK_SOURCE_POS`. -/
def sourceField (value : BitVec 32) : BitVec 32 := value >>> 24

/-- The field at `OUTCLOCK_INDIVIDER_POS`, which `CLOCKOUT_DIVIDER_LOW` fills. -/
def dividerField (value : BitVec 32) : BitVec 32 := value >>> 2 &&& 7

/-- The field at `OUTCLOCK_ENABLE_POS`. -/
def enableField (value : BitVec 32) : BitVec 32 := value &&& 1

/-- The fields of the value of an output register. -/
structure HoldsOutput (value src div ena : BitVec 32) : Prop where
  source : sourceField value = src
  divider : dividerField value = div
  enable : enableField value = ena

/-- The fields do not overlap. -/
theorem output_value_nat {src div ena : BitVec 32} (hsrc : src.toNat < 256) (hdiv : div.toNat < 8)
    (hena : ena.toNat < 2) :
    (src <<< 24 ||| div <<< 2 ||| 1#32 <<< 11 ||| ena).toNat =
      src.toNat * 2 ^ 24 + 2 ^ 11 + div.toNat * 2 ^ 2 + ena.toNat := by
  have hlow : div.toNat <<< 2 ||| ena.toNat = div.toNat <<< 2 + ena.toNat :=
    (Nat.shiftLeft_add_eq_or_of_lt (by omega) _).symm
  have hblock : 1 <<< 11 ||| (div.toNat <<< 2 + ena.toNat) =
      1 <<< 11 + (div.toNat <<< 2 + ena.toNat) :=
    (Nat.shiftLeft_add_eq_or_of_lt (by omega) _).symm
  have hall : src.toNat <<< 24 ||| (1 <<< 11 + (div.toNat <<< 2 + ena.toNat)) =
      src.toNat <<< 24 + (1 <<< 11 + (div.toNat <<< 2 + ena.toNat)) :=
    (Nat.shiftLeft_add_eq_or_of_lt (by omega) _).symm
  have hsource : (src <<< 24).toNat = src.toNat <<< 24 := by
    rw [BitVec.toNat_shiftLeft, Nat.mod_eq_of_lt (by omega)]
  have hdivider : (div <<< 2).toNat = div.toNat <<< 2 := by
    rw [BitVec.toNat_shiftLeft, Nat.mod_eq_of_lt (by omega)]
  rw [BitVec.toNat_or, BitVec.toNat_or, BitVec.toNat_or, hsource, hdivider, Nat.or_assoc,
    Nat.or_assoc, Nat.or_comm (div.toNat <<< 2), Nat.or_assoc, Nat.or_comm ena.toNat]
  show _ ||| (1 <<< 11 ||| _) = _
  rw [hlow, hblock, hall]
  omega

/-- The value that both functions put together holds what they put into it. -/
theorem output_value_holds {src div ena : BitVec 32} (hsrc : src.toNat < 256)
    (hdiv : div.toNat < 8) (hena : ena.toNat < 2) :
    HoldsOutput (src <<< 24 ||| div <<< 2 ||| 1#32 <<< 11 ||| ena) src div ena := by
  have hvalue := output_value_nat hsrc hdiv hena
  generalize src <<< 24 ||| div <<< 2 ||| 1#32 <<< 11 ||| ena = value at hvalue ⊢
  refine ⟨BitVec.eq_of_toNat_eq ?_, BitVec.eq_of_toNat_eq ?_, BitVec.eq_of_toNat_eq ?_⟩
  · rw [sourceField, BitVec.toNat_ushiftRight, Nat.shiftRight_eq_div_pow]
    omega
  · have hmask : (value.toNat / 2 ^ 2) &&& 7 = value.toNat / 2 ^ 2 % 2 ^ 3 :=
      Nat.and_two_pow_sub_one_eq_mod _ 3
    rw [dividerField, BitVec.toNat_and, BitVec.toNat_ushiftRight, Nat.shiftRight_eq_div_pow]
    show value.toNat / 2 ^ 2 &&& 7 = div.toNat
    omega
  · rw [enableField, BitVec.toNat_and]
    show value.toNat &&& 1 = ena.toNat
    rw [Nat.and_one_is_mod]
    omega

theorem enable_field_cases (value : BitVec 32) :
    enableField value = clockEnable ∨ enableField value = clockDisable := by
  have hfield : (enableField value).toNat = value.toNat % 2 := by
    rw [enableField, BitVec.toNat_and]
    exact Nat.and_one_is_mod _
  rcases Nat.mod_two_eq_zero_or_one value.toNat with hbit | hbit
  · exact Or.inl (BitVec.eq_of_toNat_eq (hfield.trans hbit))
  · exact Or.inr (BitVec.eq_of_toNat_eq (hfield.trans hbit))

/-- A cleared register. -/
theorem zero_holds : HoldsOutput 0 0 0 clockEnable := ⟨rfl, rfl, rfl⟩

/-! ## The tables -/

/-- The sources and dividers of the presets fit their fields. -/
theorem clk_out_preset_fits (domain preset : Nat) :
    (clkOutPreset domain preset).1.toNat < 256 ∧ (clkOutPreset domain preset).2.toNat ≤ 8 := by
  have hall : (clkOutSetup.all fun row => row.all fun setup =>
      decide (setup.1.toNat < 256 ∧ setup.2.toNat ≤ 8)) = true := by decide +kernel
  have htable : ∀ row ∈ clkOutSetup, ∀ setup ∈ row, setup.1.toNat < 256 ∧ setup.2.toNat ≤ 8 :=
    fun row hrow setup hsetup =>
      of_decide_eq_true (List.all_eq_true.mp (List.all_eq_true.mp hall row hrow) setup hsetup)
  unfold clkOutPreset
  rcases Nat.lt_or_ge domain clkOutSetup.length with hdomain | hdomain
  · rw [← List.getElem_eq_getD (h := hdomain)]
    rcases Nat.lt_or_ge preset (clkOutSetup[domain]).length with hpreset | hpreset
    · rw [← List.getElem_eq_getD (h := hpreset)]
      exact htable _ (List.getElem_mem hdomain) _ (List.getElem_mem hpreset)
    · rw [List.getD_eq_default _ _ hpreset]
      decide
  · rw [List.getD_eq_default _ _ hdomain]
    show (0#32).toNat < 256 ∧ (0#32).toNat ≤ 8
    decide

/-- The divider of a preset, as both functions reduce it. -/
def presetDivider (divOut : BitVec 32) : BitVec 32 := if divOut = 0 then 0 else divOut - 1

theorem preset_divider_lt {divOut : BitVec 32} (h : divOut.toNat ≤ 8) :
    (presetDivider divOut).toNat < 8 := by
  unfold presetDivider
  split
  next => decide
  next hne =>
    have hpos : divOut.toNat ≠ 0 := fun hzero => hne (BitVec.eq_of_toNat_eq hzero)
    rw [BitVec.toNat_sub]
    show (2 ^ 32 - 1 + divOut.toNat) % 2 ^ 32 < 8
    omega

/-- What a frequency gives an output: the output is disabled exactly when the frequency is off. -/
theorem output_fits {frequency : ClkFrequency} {domain : Nat} {div ena : BitVec 32}
    (h : frequency.output domain = some (div, ena)) :
    div.toNat < 8 ∧ ena.toNat < 2 ∧ (ena = clockDisable ↔ frequency = .off) := by
  cases frequency with
  | off =>
      obtain ⟨rfl, rfl⟩ := Prod.mk.inj (Option.some.inj h)
      exact ⟨by decide, by decide, iff_of_true rfl rfl⟩
  | low =>
      obtain ⟨rfl, rfl⟩ := Prod.mk.inj (Option.some.inj h)
      exact ⟨by decide, by decide, iff_of_false (by decide) (by decide)⟩
  | usecase =>
      obtain ⟨rfl, rfl⟩ := Prod.mk.inj (Option.some.inj h)
      exact ⟨preset_divider_lt (clk_out_preset_fits domain 0).2, by decide,
        iff_of_false (by decide) (by decide)⟩
  | no => exact absurd h (Option.some_ne_none _).symm

theorem output_of_ne_no {frequency : ClkFrequency} (h : frequency ≠ .no) (domain : Nat) :
    ∃ div ena, frequency.output domain = some (div, ena) := by
  cases frequency with
  | off | low | usecase => exact ⟨_, _, rfl⟩
  | no => exact absurd rfl h

/-- Different outputs have different registers. -/
theorem clkout_reg_injective {domain other : Nat} (h : clkoutReg domain = clkoutReg other) :
    domain = other := by
  unfold clkoutReg clkout clkDomainTsoutCaextPcc at h
  split at h <;> split at h <;> omega

/-! ## What `saa7231_set_clk` does -/

section Record

variable {status : ClkStatus} {domain other : Nat} {setup : ClkSetup} {frequency : ClkFrequency}

@[simp] theorem record_freq_self :
    (status.record domain setup frequency).freq domain = frequency := if_pos rfl

@[simp] theorem record_setup_self :
    (status.record domain setup frequency).setup domain = setup := if_pos rfl

theorem record_freq_of_ne (h : other ≠ domain) :
    (status.record domain setup frequency).freq other = status.freq other := if_neg h

theorem record_setup_of_ne (h : other ≠ domain) :
    (status.record domain setup frequency).setup other = status.setup other := if_neg h

end Record

section SetClk

variable {cgu : Cgu} {domain : Nat} {frequency : ClkFrequency}

/-- The crystal output is not switched off. -/
theorem set_clk_xtal : (setClk cgu clkDomainXtalDcsn .off : BoardProgram (Int × Cgu)) =
    pure (0, { cgu with clkStatus :=
      { cgu.clkStatus with freq := fun other =>
          if other = clkDomainXtalDcsn then .off else cgu.clkStatus.freq other } }) :=
  if_pos ⟨rfl, Or.inr rfl⟩

theorem set_clk_same (hpcc : domain ≠ clkDomainPcc)
    (hxtal : ¬ (frequency = .off ∧ domain = clkDomainXtalDcsn))
    (hsame : frequency = cgu.clkStatus.freq domain) :
    (setClk cgu domain frequency : BoardProgram (Int × Cgu)) =
      setClkOutput cgu domain frequency 0 0 0 := by
  have hoff : ¬ (frequency = .off ∧ (domain = clkDomainPcc ∨ domain = clkDomainXtalDcsn)) :=
    fun h => h.2.elim hpcc fun h0 => hxtal ⟨h.1, h0⟩
  unfold setClk
  rw [if_neg hoff, if_neg hpcc, if_pos hsame]

theorem set_clk_new (hpcc : domain ≠ clkDomainPcc)
    (hxtal : ¬ (frequency = .off ∧ domain = clkDomainXtalDcsn))
    (hnew : frequency ≠ cgu.clkStatus.freq domain) {div ena : BitVec 32}
    (houtput : frequency.output domain = some (div, ena)) :
    (setClk cgu domain frequency : BoardProgram (Int × Cgu)) =
      setClkOutput cgu domain frequency (clkOutPreset domain 0).1 div
        ((clkOutPreset domain 0).1 <<< 24 ||| div <<< 2 ||| 1#32 <<< 11 ||| ena) := by
  have hoff : ¬ (frequency = .off ∧ (domain = clkDomainPcc ∨ domain = clkDomainXtalDcsn)) :=
    fun h => h.2.elim hpcc fun h0 => hxtal ⟨h.1, h0⟩
  unfold setClk
  rw [if_neg hoff, if_neg hpcc, if_neg hnew, houtput]

/-- Every frequency sets every output but those of the PCC and the crystal. -/
theorem set_clk_sets (cgu : Cgu) (hpcc : domain ≠ clkDomainPcc)
    (hxtal : ¬ (frequency = .off ∧ domain = clkDomainXtalDcsn)) (hno : frequency ≠ .no) :
    ∃ src div val, (setClk cgu domain frequency : BoardProgram (Int × Cgu)) =
      setClkOutput cgu domain frequency src div val := by
  obtain ⟨div, ena, houtput⟩ := output_of_ne_no hno domain
  by_cases hsame : frequency = cgu.clkStatus.freq domain
  · exact ⟨_, _, _, set_clk_same hpcc hxtal hsame⟩
  · exact ⟨_, _, _, set_clk_new hpcc hxtal hsame houtput⟩

/-- The call sets the output, or it performs no operation and changes the frequency of this output
at most. -/
theorem set_clk_cases (cgu : Cgu) (domain : Nat) (frequency : ClkFrequency) :
    (∃ src div val, (setClk cgu domain frequency : BoardProgram (Int × Cgu)) =
        setClkOutput cgu domain frequency src div val) ∨
      ∃ ret after, (setClk cgu domain frequency : BoardProgram (Int × Cgu)) =
          pure (ret, after) ∧
        (∀ other, other ≠ domain → after.clkStatus.freq other = cgu.clkStatus.freq other) ∧
        after.clkStatus.setup = cgu.clkStatus.setup ∧ after.clkIn = cgu.clkIn := by
  unfold setClk
  split
  next => exact Or.inr ⟨_, _, rfl, fun other hother => if_neg hother, rfl, rfl⟩
  next =>
    split
    next => exact Or.inr ⟨_, _, rfl, fun _ _ => rfl, rfl, rfl⟩
    next =>
      split
      next => exact Or.inl ⟨_, _, _, rfl⟩
      next =>
        cases frequency.output domain with
        | none => exact Or.inr ⟨_, _, rfl, fun _ _ => rfl, rfl, rfl⟩
        | some output => exact Or.inl ⟨_, _, _, rfl⟩

end SetClk

/-- A function that sets one output writes its register and records it. -/
theorem ClockState.after_set_clk_output {env : Environment} {state : ClockState}
    (program : Cgu → BoardProgram (Int × Cgu)) {domain : Nat} {frequency : ClkFrequency}
    {src div val : BitVec 32}
    (h : program state.cgu = setClkOutput state.cgu domain frequency src div val) :
    state.after env program =
      ⟨{ state.cgu with clkStatus :=
          state.cgu.clkStatus.record domain ⟨src, div, 0⟩ frequency },
        state.board.write val (Mod.cgu + clkoutReg domain)⟩ := by
  unfold ClockState.after
  rw [h]
  rfl

/-- A function that performs no operation. -/
theorem ClockState.after_pure {env : Environment} {state : ClockState}
    (program : Cgu → BoardProgram (Int × Cgu)) {ret : Int} {cgu : Cgu}
    (h : program state.cgu = pure (ret, cgu)) :
    state.after env program = ⟨cgu, state.board⟩ := by
  unfold ClockState.after
  rw [h]
  rfl

end Saa7231
