import Saa7231.Lgs8gxx.RegisterDevice

/-!
# The format of the transport stream

Three bits of one register say how the transport stream leaves the demodulator. `lgs8gxx_init` sets
them, and on an LGS8G75 the packet counters are started and stopped in the same register.
`format_kept` follows the register through any sequence of calls of the frontend, in which any
transfer may fail but a read of that register.
-/

namespace Saa7231

open Interaction Program

section Calls

variable {Ext : Type} {ExtAns : Ext → Type} {σ α : Type} {config : Lgs8gxxConfig}

/-- The world of the demodulator in one of the frontend. -/
def demodWorld (world : World (LgsOp ⊕ Ext) (Sum.elim LgsAns ExtAns) σ) : World LgsOp LgsAns σ :=
  world.narrow Sum.inl fun _ reply => reply

/-- A program of the demodulator runs in its own part of the world. -/
theorem run_demod (world : World (LgsOp ⊕ Ext) (Sum.elim LgsAns ExtAns) σ)
    (program : LgsProgram α) (state : σ) :
    (demod program : FeProgram ExtAns α).run world state = program.run (demodWorld world) state :=
  run_relabel world program state

/-- A call of one of the frontend's operations, with what the locals hold. -/
inductive FeCall where
  | init (stack : BitVec 8)
  | write (buf : List (BitVec 8))
  | i2cGateCtrl (enable : Bool)
  | setFrontend (stack : LockStack) (params : DtvFrontendProperties)
  | readStatus (afc isLocked stack : BitVec 8)
  | readBer (start stop stack : BitVec 8)
  | readSignalStrength (fake : Bool) (currGi : BitVec 16) (stack stack2 : BitVec 8)
      (signal : BitVec 16)
  | readSnr (stack : BitVec 8)
  | readUcblocks

/-- A frontend: the demodulator, the address of its tuner and the tuner's `set_params`. -/
structure Frontend (ExtAns : Ext → Type) where
  config : Lgs8gxxConfig
  tunerAddress : BitVec 8
  setParams : Option (DtvFrontendProperties → FeProgram ExtAns (Int × DtvFrontendProperties))

/-- The call, without what it returns. -/
def Frontend.call (fe : Frontend ExtAns) : FeCall → FeProgram ExtAns Unit
  | .init stack => do let _ret ← demod (lgs8gxxInit fe.config stack)
  | .write buf => do let _ret ← demod (lgs8gxxWrite fe.config buf)
  | .i2cGateCtrl enable => do
      let _ret ← demod (lgs8gxxI2cGateCtrl fe.config fe.tunerAddress enable)
  | .setFrontend stack params => do
      let _ret ← lgs8gxxSetFe fe.config fe.tunerAddress stack fe.setParams params
  | .readStatus afc isLocked stack => do
      let _ret ← demod (lgs8gxxReadStatus fe.config afc isLocked stack)
  | .readBer start stop stack => do let _ret ← demod (lgs8gxxReadBer fe.config start stop stack)
  | .readSignalStrength fake currGi stack stack2 signal => do
      let _ret ← demod (lgs8gxxReadSignalStrength fe.config fake currGi stack stack2 signal)
  | .readSnr stack => do let _ret ← demod (lgs8gxxReadSnr fe.config stack)
  | .readUcblocks => do let _ret ← demod lgs8gxxReadUcblocks

/-- Calls one after the other. -/
def Frontend.session (fe : Frontend ExtAns) : List FeCall → FeProgram ExtAns Unit
  | [] => pure ()
  | call :: rest => do
      fe.call call
      fe.session rest

end Calls

/-! ## The register -/

/-- The format bits. -/
def tsFormat (config : Lgs8gxxConfig) : BitVec 8 :=
  bitsIf (config.serialTs ≠ 0) 0x01 ||| bitsIf (config.tsClkPol ≠ 0) 0x02 |||
    bitsIf (config.tsClkGated = 0) 0x04

section Register

variable {σ α : Type} {config : Lgs8gxxConfig} {world : World LgsOp LgsAns σ}
  {value : σ → BitVec 8}

/-- The bits beside those of the packet counters. -/
def besideCounters (byte : BitVec 8) : BitVec 8 := byte &&& 0xE7

/-- The bits for a condition, or none. -/
theorem bits_if_cases (c : Prop) [Decidable c] (bits : BitVec 8) :
    bitsIf c bits = bits ∨ bitsIf c bits = 0 := by
  unfold bitsIf
  split
  next => exact Or.inl rfl
  next => exact Or.inr rfl

variable (config) in
/-- The format is none of the upper bits and none of the counters'. -/
theorem ts_format_bits :
    tsFormat config &&& 0xE0 = 0#8 ∧ tsFormat config &&& 0xE7 = tsFormat config := by
  unfold tsFormat
  obtain hserial | hserial := bits_if_cases (config.serialTs ≠ 0) 0x01
  all_goals
    obtain hpol | hpol := bits_if_cases (config.tsClkPol ≠ 0) 0x02
  all_goals
    obtain hgated | hgated := bits_if_cases (config.tsClkGated = 0) 0x04
  all_goals
    rw [hserial, hpol, hgated]
    decide

variable (config) in
/-- The format byte keeps the upper bits. -/
theorem mpeg_mode_format (t : BitVec 8) :
    besideCounters (mpegMode t config.serialTs config.tsClkPol config.tsClkGated) =
      (t &&& 0xE0) ||| tsFormat config := by
  have hbyte : mpegMode t config.serialTs config.tsClkPol config.tsClkGated =
      (t &&& 0xF8) ||| tsFormat config := by
    unfold mpegMode tsFormat
    rw [BitVec.or_assoc, BitVec.or_assoc, BitVec.or_assoc]
  have hupper : (0xF8 : BitVec 8) &&& 0xE7 = 0xE0 := by decide
  rw [besideCounters, hbyte, BitVec.and_or_distrib_right, (ts_format_bits config).2,
    BitVec.and_assoc, hupper]

variable (config) in
/-- The upper bits of a byte with the format set. -/
theorem upper_of_format {byte upper : BitVec 8}
    (hset : besideCounters byte = (upper &&& 0xE0) ||| tsFormat config) :
    byte &&& 0xE0 = upper &&& 0xE0 := by
  have hmask : (0xE7 : BitVec 8) &&& 0xE0 = 0xE0 := by decide
  have hupper : (0xE0 : BitVec 8) &&& 0xE0 = 0xE0 := by decide
  calc byte &&& 0xE0 = besideCounters byte &&& 0xE0 := by
        rw [besideCounters, BitVec.and_assoc, hmask]
    _ = upper &&& 0xE0 := by
        rw [hset, BitVec.and_or_distrib_right, (ts_format_bits config).1, BitVec.or_zero,
          BitVec.and_assoc, hupper]

/-- A write of a byte with the same bits beside the counters', whether it arrives or not. -/
theorem Register.write_beside {reg data : BitVec 8} (h : Register config world reg value)
    {bits : BitVec 8} (hdata : besideCounters data = bits) {state : σ}
    (hstate : besideCounters (value state) = bits) :
    besideCounters (value ((lgs8gxxWriteReg config reg data).run world state).2) = bits := by
  obtain hset | hlost := h.write_run data state
  · rw [hset, hdata]
  · rw [hlost, hstate]

/-- The counters' own bits do not matter. -/
theorem beside_cleared (byte : BitVec 8) :
    besideCounters (byte &&& 0xE7) = besideCounters byte ∧
      besideCounters ((byte &&& 0xE7) ||| 0x10) = besideCounters byte ∧
      besideCounters ((byte &&& 0xE7) ||| 0x18) = besideCounters byte := by
  revert byte
  decide +kernel

/-- Starting the counters keeps the other bits of their register. -/
theorem counter_start_beside (h : Register config world (modeReg config.prod) value)
    (hreads : ReadsArrive config world (modeReg config.prod)) (stack : BitVec 8) (state : σ) :
    besideCounters (value ((packetCounterStart config stack).run world state).2) =
      besideCounters (value state) := by
  by_cases h75 : config.prod = lgs8gxxProdLgs8g75
  · rw [modeReg, if_pos h75] at h hreads
    obtain ⟨hread, hkept⟩ := h.read_run hreads stack state
    obtain ⟨-, h10, h18⟩ := beside_cleared (value state)
    unfold packetCounterStart
    rw [if_pos h75, run_bind, hread]
    dsimp only
    rw [run_bind, run_bind, run_bind]
    exact h.write_beside h10 (h.write_beside h18 (h.write_beside h10 (congrArg _ hkept)))
  · have hother : modeReg config.prod ∉ [counterControl config.prod] := by
      rw [modeReg, counterControl, if_neg h75, if_neg h75]
      decide
    rw [h.unreached ((packet_counter_start_reaches stack).apart hother)]

/-- And so does stopping them. -/
theorem counter_stop_beside (h : Register config world (modeReg config.prod) value)
    (hreads : ReadsArrive config world (modeReg config.prod)) (stack : BitVec 8) (state : σ) :
    besideCounters (value ((packetCounterStop config stack).run world state).2) =
      besideCounters (value state) := by
  by_cases h75 : config.prod = lgs8gxxProdLgs8g75
  · rw [modeReg, if_pos h75] at h hreads
    obtain ⟨hread, hkept⟩ := h.read_run hreads stack state
    unfold packetCounterStop
    rw [if_pos h75, run_bind, hread]
    dsimp only
    rw [run_bind]
    exact h.write_beside (beside_cleared (value state)).1 (congrArg _ hkept)
  · have hother : modeReg config.prod ∉ [counterControl config.prod] := by
      rw [modeReg, counterControl, if_neg h75, if_neg h75]
      decide
    rw [h.unreached ((packet_counter_stop_reaches stack).apart hother)]

/-- The register of the format is none of them. -/
theorem mode_reg_not_mem {regs : List (BitVec 8)} (h30 : 0x30 ∉ regs) (hC2 : 0xC2 ∉ regs) :
    modeReg config.prod ∉ regs := by
  unfold modeReg
  split
  next => exact h30
  next => exact hC2

/-- A reading of the error rate leaves the bits beside the counters. -/
theorem read_ber_beside (h : Register config world (modeReg config.prod) value)
    (hreads : ReadsArrive config world (modeReg config.prod)) (start stop stack : BitVec 8)
    (state : σ) :
    besideCounters (value ((lgs8gxxReadBer config start stop stack).run world state).2) =
      besideCounters (value state) := by
  have hcounters : (readCounters config stack).Only (Apart config (modeReg config.prod)) :=
    (read_counters_reaches stack).apart (mode_reg_not_mem (by decide) (by decide))
  unfold lgs8gxxReadBer
  rw [run_bind, run_bind, run_bind, h.unreached hcounters, counter_stop_beside h hreads,
    h.unreached (msleep_apart _ _ 200), counter_start_beside h hreads]

/-- `lgs8gxx_set_mpeg_mode` sets the format when it returns 0, and otherwise sets it or leaves the
register alone. -/
theorem set_mpeg_mode_beside (h : Register config world (modeReg config.prod) value)
    (hreads : ReadsArrive config world (modeReg config.prod)) (stack : BitVec 8) (state : σ)
    {err : Int} {after : σ}
    (hrun : (lgs8gxxSetMpegMode config stack config.serialTs config.tsClkPol
      config.tsClkGated).run world state = (err, after)) :
    besideCounters (value after) = (value state &&& 0xE0) ||| tsFormat config ∨
      (err ≠ 0 ∧ value after = value state) := by
  obtain ⟨hread, hkept⟩ := h.read_run hreads stack state
  unfold lgs8gxxSetMpegMode at hrun
  dsimp only at hrun
  rw [← modeReg, run_bind, hread] at hrun
  dsimp only at hrun
  rw [if_neg (not_not_intro rfl), run_bind] at hrun
  have hset := mpeg_mode_format config (value state)
  split at hrun
  next hfail =>
    obtain ⟨rfl, rfl⟩ := Prod.mk.inj hrun
    obtain harrived | hlost := h.write_run _ _
    · exact Or.inl ((congrArg besideCounters harrived).trans hset)
    · exact Or.inr ⟨hfail, hlost.trans hkept⟩
  next hret =>
    obtain ⟨rfl, rfl⟩ := Prod.mk.inj hrun
    exact Or.inl ((congrArg besideCounters (h.written (not_not.mp hret))).trans hset)

/-! ## The set-up -/

/-- What `lgs8gxx_init` does before the format. -/
def initDownload (config : Lgs8gxxConfig) : LgsProgram Unit := do
  let _data ← lgs8gxxReadReg config 0 0
  if config.prod = lgs8gxxProdLgs8g75 then
    let _rc ← lgs8g75InitData config
    let _ret ← lgs8g75SetAdcVpp config config.adcVpp
    return ()
  else
    return ()

/-- What `lgs8gxx_init` does after the format. -/
def initInput (config : Lgs8gxxConfig) (stack : BitVec 8) : LgsProgram Int := do
  if config.prod = lgs8gxxProdLgs8913 then
    let _ret ← lgs8913Init config stack
  let _ret ← lgs8gxxSetIfFreq config config.ifFreq
  let _ret ← lgs8gxxSetAdMode config
  return 0

/-- The set-up in its three parts. -/
theorem init_eq (stack : BitVec 8) : lgs8gxxInit config stack = (do
    initDownload config
    let err ← lgs8gxxSetMpegMode config stack config.serialTs config.tsClkPol config.tsClkGated
    if err ≠ 0 then
      return -eio
    else
      initInput config stack) := by
  unfold lgs8gxxInit initDownload initInput
  rw [bind_assoc]
  refine congrArg (_ >>= ·) (funext fun data => ?_)
  by_cases h75 : config.prod = lgs8gxxProdLgs8g75
  · simp only [if_pos h75, bind_assoc, pure_bind]
  · simp only [if_neg h75, pure_bind]

/-- The last part leaves the format alone. -/
theorem init_input_apart (stack : BitVec 8) :
    (initInput config stack).Only (Apart config (modeReg config.prod)) := by
  have hregs : ∀ regs : List (BitVec 8), regs ⊆ initRegs → modeReg config.prod ∉ regs :=
    fun regs hsub hmem => mode_reg_not_mem (by decide) (by decide) (hsub hmem)
  have hfreq : (do
      let _ret ← lgs8gxxSetIfFreq config config.ifFreq
      let _ret ← lgs8gxxSetAdMode config
      return (0 : Int)).Only (Apart config (modeReg config.prod)) :=
    (init_input_reaches config).apart (hregs _ (List.Subset.refl _))
  unfold initInput
  split
  next => exact Only.bind ((lgs8913_init_reaches stack).apart (hregs _ (by decide))) fun _ => hfreq
  next => exact hfreq

/-- So does the first. -/
theorem init_download_apart :
    (initDownload config).Only (Apart config (modeReg config.prod)) := by
  have hregs : ∀ regs : List (BitVec 8), regs ⊆ initRegs → modeReg config.prod ∉ regs :=
    fun regs hsub hmem => mode_reg_not_mem (by decide) (by decide) (hsub hmem)
  refine Only.bind ((read_reaches List.mem_cons_self).apart (hregs [0] (by decide)))
    fun _ => ?_
  split
  next =>
    refine Only.bind (init_data_reaches.apart (hregs _ (by decide))) fun _ => ?_
    refine Only.bind ((set_adc_vpp_reaches _).apart (hregs _ (by decide))) fun _ => ?_
    exact only_pure ()
  next => exact only_pure ()

/-- `lgs8gxx_init` sets the format when it returns 0, and otherwise sets it or leaves the register
alone. -/
theorem init_beside (h : Register config world (modeReg config.prod) value)
    (hreads : ReadsArrive config world (modeReg config.prod)) (stack : BitVec 8) (state : σ) :
    besideCounters (value ((lgs8gxxInit config stack).run world state).2) =
        (value state &&& 0xE0) ||| tsFormat config ∨
      (((lgs8gxxInit config stack).run world state).1 ≠ 0 ∧
        value ((lgs8gxxInit config stack).run world state).2 = value state) := by
  rw [init_eq, run_bind, run_bind]
  have hdownload := h.unreached init_download_apart state
  generalize ((initDownload config).run world state).2 = ready at hdownload ⊢
  cases hmode : (lgs8gxxSetMpegMode config stack config.serialTs config.tsClkPol
    config.tsClkGated).run world ready with
  | mk err after =>
      have hset := set_mpeg_mode_beside h hreads stack ready hmode
      rw [hdownload] at hset
      dsimp only
      split
      next herr =>
        obtain hformat | ⟨_, hsame⟩ := hset
        · exact Or.inl hformat
        · exact Or.inr ⟨show -eio ≠ (0 : Int) by decide, hsame⟩
      next herr =>
        obtain hformat | ⟨hfail, _⟩ := hset
        · exact Or.inl ((congrArg besideCounters
            (h.unreached (init_input_apart stack) after)).trans hformat)
        · exact absurd hfail herr

end Register

/-! ## Sessions -/

section Sessions

variable {Ext : Type} {ExtAns : Ext → Type} {σ α : Type} {fe : Frontend ExtAns}
  {world : World (LgsOp ⊕ Ext) (Sum.elim LgsAns ExtAns) σ} {value : σ → BitVec 8} {reg : BitVec 8}

/-- An operation of the frontend that leaves a register of the demodulator alone. -/
def FeApart (config : Lgs8gxxConfig) (reg : BitVec 8) : LgsOp ⊕ Ext → Prop
  | .inl op => Apart config reg op
  | .inr _ => True

/-- The calls do not write to the register by hand. -/
def FeCall.Spares (reg : BitVec 8) : FeCall → Prop
  | .write buf => buf.head? ≠ some reg
  | _ => True

/-- The tuner does not reach the register. -/
def TunerApart (fe : Frontend ExtAns) (reg : BitVec 8) : Prop :=
  ∀ setParams, fe.setParams = some setParams →
    ∀ params, (setParams params).Only (FeApart fe.config reg)

/-- A register of the demodulator, in a world of the frontend. -/
structure FeRegister (config : Lgs8gxxConfig)
    (world : World (LgsOp ⊕ Ext) (Sum.elim LgsAns ExtAns) σ) (reg : BitVec 8)
    (value : σ → BitVec 8) : Prop where
  register : Register config (demodWorld world) reg value
  tuner : ∀ (op : Ext) (state : σ), value (world.after (.inr op) state) = value state

/-- A program that does not reach the register leaves its value. -/
theorem FeRegister.unreached (h : FeRegister fe.config world reg value)
    {program : FeProgram ExtAns α} (hapart : program.Only (FeApart fe.config reg)) (state : σ) :
    value (program.run world state).2 = value state := by
  refine run_preserves hapart value (fun op s hop => ?_) state
  cases op with
  | inl op => exact h.register.frame op s hop
  | inr op => exact h.tuner op s

/-- The demodulator's programs inside the frontend. -/
theorem demod_apart {program : LgsProgram α} (h : program.Only (Apart fe.config reg)) :
    (demod program : FeProgram ExtAns α).Only (FeApart fe.config reg) :=
  h.relabel fun _ hop => hop

/-- A tuning leaves the format alone. -/
theorem set_fe_apart (htuner : TunerApart fe (modeReg fe.config.prod)) (stack : LockStack)
    (params : DtvFrontendProperties) :
    (lgs8gxxSetFe fe.config fe.tunerAddress stack fe.setParams params).Only
      (FeApart fe.config (modeReg fe.config.prod)) := by
  have hgate : (lgs8gxxI2cGateCtrl fe.config fe.tunerAddress false).Only
      (Apart fe.config (modeReg fe.config.prod)) :=
    (i2c_gate_ctrl_reaches _ _).apart (mode_reg_not_mem (by decide) (by decide))
  have hlock : (lgs8gxxAutoLock fe.config stack).Only (Apart fe.config (modeReg fe.config.prod)) :=
    (auto_lock_reaches _).apart (mode_reg_not_mem (by decide) (by decide))
  refine Only.bind ?_ fun _ => ?_
  · unfold tuneTuner
    split
    next => exact only_pure _
    next setParams heq =>
      refine Only.bind (htuner setParams heq params) fun _ => ?_
      refine Only.bind (demod_apart hgate) fun _ => ?_
      exact only_pure _
  · refine Only.bind (demod_apart hlock) fun _ => ?_
    refine Only.bind (demod_apart (msleep_apart _ _ 10)) fun _ => ?_
    exact only_pure _

/-- So does a write to another register. -/
theorem write_apart {config : Lgs8gxxConfig} {buf : List (BitVec 8)}
    (h : buf.head? ≠ some reg) : (lgs8gxxWrite config buf).Only (Apart config reg) := by
  unfold lgs8gxxWrite
  split
  next other data => exact write_reg_apart fun heq => h (congrArg some heq)
  next => exact only_pure _

/-- A call keeps the bits beside the counters', or sets the format. -/
theorem call_beside (h : FeRegister fe.config world (modeReg fe.config.prod) value)
    (hreads : ReadsArrive fe.config (demodWorld world) (modeReg fe.config.prod))
    (htuner : TunerApart fe (modeReg fe.config.prod)) {call : FeCall}
    (hspares : call.Spares (modeReg fe.config.prod)) (state : σ) :
    besideCounters (value ((fe.call call).run world state).2) = besideCounters (value state) ∨
      besideCounters (value ((fe.call call).run world state).2) =
        (value state &&& 0xE0) ||| tsFormat fe.config := by
  have hmode {regs : List (BitVec 8)} (h30 : 0x30 ∉ regs) (hC2 : 0xC2 ∉ regs) :
      modeReg fe.config.prod ∉ regs := mode_reg_not_mem h30 hC2
  have hkept {α : Type} {program : LgsProgram α}
      (hapart : program.Only (Apart fe.config (modeReg fe.config.prod))) :
      besideCounters (value ((demod program >>= fun _ => pure () : FeProgram ExtAns Unit).run world
        state).2) = besideCounters (value state) :=
    congrArg besideCounters
      (h.unreached (Only.bind (demod_apart hapart) fun _ => only_pure ()) state)
  cases call with
  | init stack =>
      rw [Frontend.call, run_bind, run_demod]
      obtain hset | ⟨_, hsame⟩ := init_beside h.register hreads stack state
      · exact Or.inr hset
      · exact Or.inl (congrArg besideCounters hsame)
  | write buf => exact Or.inl (hkept (write_apart hspares))
  | i2cGateCtrl enable =>
      exact Or.inl (hkept ((i2c_gate_ctrl_reaches _ _).apart (hmode (by decide) (by decide))))
  | setFrontend stack params =>
      exact Or.inl (congrArg besideCounters (h.unreached
        (Only.bind (set_fe_apart htuner stack params) fun _ => only_pure ()) state))
  | readStatus afc isLocked stack =>
      exact Or.inl (hkept ((read_status_reaches _ _ _).apart (hmode (by decide) (by decide))))
  | readBer start stop stack =>
      rw [Frontend.call, run_bind, run_demod]
      exact Or.inl (read_ber_beside h.register hreads start stop stack state)
  | readSignalStrength fake currGi stack stack2 signal =>
      exact Or.inl (hkept ((read_signal_strength_reaches _ _ _ _ _).apart
        (hmode (by decide) (by decide))))
  | readSnr stack =>
      exact Or.inl (hkept ((read_snr_reaches _).apart (hmode (by decide) (by decide))))
  | readUcblocks => exact Or.inl (hkept (only_pure _))

/-- From a state with the format set, every session leaves it set. -/
theorem session_beside (h : FeRegister fe.config world (modeReg fe.config.prod) value)
    (hreads : ReadsArrive fe.config (demodWorld world) (modeReg fe.config.prod))
    (htuner : TunerApart fe (modeReg fe.config.prod)) {calls : List FeCall}
    (hspares : ∀ call ∈ calls, call.Spares (modeReg fe.config.prod)) {upper : BitVec 8}
    {state : σ} (hset : besideCounters (value state) = (upper &&& 0xE0) ||| tsFormat fe.config) :
    besideCounters (value ((fe.session calls).run world state).2) =
      (upper &&& 0xE0) ||| tsFormat fe.config := by
  induction calls generalizing state with
  | nil => exact hset
  | cons call rest ih =>
      obtain ⟨hcall, hrest⟩ := List.forall_mem_cons.mp hspares
      rw [Frontend.session, run_bind]
      refine ih hrest ?_
      obtain hkept | hformat := call_beside h hreads htuner hcall state
      · exact hkept.trans hset
      · rw [hformat, upper_of_format fe.config hset]

/-- After an `lgs8gxx_init` that returned 0 and any calls, in any order and with any other failures
on the bus, the transport stream has the format of the configuration, and the upper bits of its
register are those from before. Only the bits of the counters change. -/
theorem format_kept (h : FeRegister fe.config world (modeReg fe.config.prod) value)
    (hreads : ReadsArrive fe.config (demodWorld world) (modeReg fe.config.prod))
    (htuner : TunerApart fe (modeReg fe.config.prod)) (stack : BitVec 8) (calls : List FeCall)
    (hspares : ∀ call ∈ calls, call.Spares (modeReg fe.config.prod)) (state : σ)
    (hinit : ((demod (lgs8gxxInit fe.config stack)).run world state).1 = 0) :
    besideCounters (value ((do
      let _ret ← demod (lgs8gxxInit fe.config stack)
      fe.session calls).run world state).2) =
        (value state &&& 0xE0) ||| tsFormat fe.config := by
  rw [run_bind]
  refine session_beside h hreads htuner hspares ?_
  rw [run_demod] at hinit ⊢
  obtain hset | ⟨hfail, _⟩ := init_beside h.register hreads stack state
  · exact hset
  · exact absurd hinit hfail

end Sessions

/-! ## A frontend without a tuner -/

/-- The card's demodulator alone. -/
def bareFrontend : Frontend Empty.elim := ⟨a328Lgs8g75Config, 0, none⟩

/-- Its world, where every register keeps what was written. -/
def bareWorld : World (LgsOp ⊕ Empty) (Sum.elim LgsAns Empty.elim)
    (RegisterLine (BitVec 8 → BitVec 8)) where
  answer op state := match op with
    | .inl op => (fileWorld a328Lgs8g75Config).answer op state
  after op state := match op with
    | .inl op => (fileWorld a328Lgs8g75Config).after op state

/-- The file's register is one of the frontend. -/
theorem bare_register : FeRegister bareFrontend.config bareWorld
    (modeReg bareFrontend.config.prod) (fun line => line.file 0x30) :=
  ⟨file_register a328Lgs8g75Config 0x30, fun op _ => op.elim⟩

/-- A set-up, a read of the counters and one of the status. -/
def bareSession : Unit × RegisterLine (BitVec 8 → BitVec 8) :=
  (do
    let _ret ← demod (lgs8gxxInit bareFrontend.config 0)
    bareFrontend.session [.readBer 0 0 0, .readStatus 0 0 0]).run bareWorld (fileLine fun _ => 0xFF)

/-- The set-up succeeds there. -/
theorem init_bare : ((demod (lgs8gxxInit bareFrontend.config 0)).run bareWorld
    (fileLine fun _ => 0xFF)).1 = 0 := by
  rw [run_demod]
  rfl

/-- The format is that of the card after it. -/
theorem format_kept_bare : besideCounters (bareSession.2.file 0x30) =
    ((0xFF : BitVec 8) &&& 0xE0) ||| tsFormat a328Lgs8g75Config := by
  have hkept := format_kept bare_register (file_reads_arrive a328Lgs8g75Config 0x30)
    (fun setParams hset => absurd hset (Option.some_ne_none setParams).symm) 0
    [.readBer 0 0 0, .readStatus 0 0 0]
    (List.forall_mem_cons.mpr ⟨trivial, List.forall_mem_singleton.mpr trivial⟩)
    (fileLine fun _ => 0xFF) init_bare
  exact hkept

end Saa7231
