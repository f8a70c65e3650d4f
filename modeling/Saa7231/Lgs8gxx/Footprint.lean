import Saa7231.Lgs8gxx.Status

/-!
# The registers that each function reaches

Every transfer of the driver writes or reads one register, and each function reaches few of them.
The lemmas here bound the registers of each function. They say which functions leave a register
alone, and that every transfer has the form of a register access.
-/

namespace Saa7231

open Interaction Program

/-- The operation does not reach the register. -/
def AvoidsReg (reg : BitVec 8) (op : LgsOp) : Prop := op.reg ≠ some reg

/-- The operation is no transfer, or it writes or reads one of the registers. -/
inductive Accesses (config : Lgs8gxxConfig) (regs : List (BitVec 8)) : LgsOp → Prop
  | write {reg : BitVec 8} (data : BitVec 8) (hreg : reg ∈ regs) :
      Accesses config regs (.i2cTransfer [writeMsg config reg data])
  | read {reg : BitVec 8} (hreg : reg ∈ regs) :
      Accesses config regs (.i2cTransfer (readMsgs config reg))
  | other {op : LgsOp} (hother : ∀ msgs, op ≠ .i2cTransfer msgs) : Accesses config regs op

variable {config : Lgs8gxxConfig} {regs : List (BitVec 8)} {reg p data : BitVec 8}

/-- What is within some registers is within more of them. -/
theorem Accesses.mono {regs' : List (BitVec 8)} {op : LgsOp} (hsub : regs ⊆ regs')
    (h : Accesses config regs op) : Accesses config regs' op := by
  cases h with
  | write data hreg => exact .write data (hsub hreg)
  | read hreg => exact .read (hsub hreg)
  | other hother => exact .other hother

/-- The first byte of every access is its register. -/
theorem Accesses.avoids {op : LgsOp} (h : Accesses config regs op) (hreg : reg ∉ regs) :
    AvoidsReg reg op := by
  intro heq
  cases h with
  | write data hmem =>
      cases Option.some.inj heq
      exact hreg hmem
  | read hmem =>
      cases Option.some.inj heq
      exact hreg hmem
  | other hother =>
      cases op with
      | i2cTransfer msgs => exact hother msgs rfl
      | msleep | usleepRange | requestFirmware | releaseFirmware => cases heq

/-- The operation is no transfer, or it writes or reads another register. -/
def Apart (config : Lgs8gxxConfig) (reg : BitVec 8) (op : LgsOp) : Prop :=
  ∃ regs, reg ∉ regs ∧ Accesses config regs op

/-- The program reaches the registers only. -/
abbrev Reaches (config : Lgs8gxxConfig) (regs : List (BitVec 8)) {α : Type}
    (program : LgsProgram α) : Prop := program.Only (Accesses config regs)

/-- More registers allow the same program. -/
theorem Reaches.widen {regs' : List (BitVec 8)} {α : Type} {program : LgsProgram α}
    (h : Reaches config regs program) (hsub : regs ⊆ regs') : Reaches config regs' program :=
  h.mono fun _ => Accesses.mono hsub

/-- A register that is none of those is left alone. -/
theorem Reaches.avoids {α : Type} {program : LgsProgram α} (h : Reaches config regs program)
    (hreg : reg ∉ regs) : program.Only (AvoidsReg reg) :=
  h.mono fun _ haccess => haccess.avoids hreg

/-- Every transfer is the access to another register. -/
theorem Reaches.apart {α : Type} {program : LgsProgram α} (h : Reaches config regs program)
    (hreg : reg ∉ regs) : program.Only (Apart config reg) :=
  h.mono fun _ haccess => ⟨regs, hreg, haccess⟩

/-! ## Single operations -/

/-- A write is one transfer, and an access to its register. -/
theorem write_reaches (hreg : reg ∈ regs) :
    Reaches config regs (lgs8gxxWriteReg config reg data) :=
  ⟨.write data hreg, fun _ => trivial⟩

/-- A read is one transfer, and an access to its register. -/
theorem read_reaches (hreg : reg ∈ regs) : Reaches config regs (lgs8gxxReadReg config reg p) :=
  ⟨.read hreg, fun _ => trivial⟩

/-- What is no transfer reaches no register. -/
theorem other_reaches {op : LgsOp} (hother : ∀ msgs, op ≠ .i2cTransfer msgs) :
    Reaches config regs (Program.perform op) :=
  (only_perform op).mpr (.other hother)

/-- A pause. -/
theorem msleep_reaches (milliseconds : Nat) :
    Reaches config regs (LgsProgram.msleep milliseconds) :=
  other_reaches fun _ heq => LgsOp.noConfusion heq

/-- A short pause. -/
theorem usleep_range_reaches (least most : Nat) :
    Reaches config regs (LgsProgram.usleepRange least most) :=
  other_reaches fun _ heq => LgsOp.noConfusion heq

/-- A write to another register. -/
theorem write_reg_apart {other : BitVec 8} (hother : other ≠ reg) :
    (lgs8gxxWriteReg config other data).Only (Apart config reg) :=
  (write_reaches List.mem_cons_self).apart fun hmem => hother (List.mem_singleton.mp hmem).symm

/-- A pause. -/
theorem msleep_apart (config : Lgs8gxxConfig) (reg : BitVec 8) (milliseconds : Nat) :
    (LgsProgram.msleep milliseconds).Only (Apart config reg) :=
  (msleep_reaches milliseconds : Reaches config [] _).apart List.not_mem_nil

/-- A write that depends on a condition. -/
theorem write_when_reaches {c : Prop} [Decidable c] (hreg : reg ∈ regs) :
    Reaches config regs (writeWhen config c reg data) := by
  unfold writeWhen
  split
  next => exact Only.bind (write_reaches hreg) fun _ => only_pure ()
  next => exact only_pure ()

/-- The soft reset goes through register `0x02`. -/
theorem soft_reset_reaches : Reaches config [0x02] (lgs8gxxSoftReset config) := by
  refine Only.bind (write_reaches (by decide)) fun _ => ?_
  refine Only.bind (msleep_reaches 1) fun _ => ?_
  refine Only.bind (write_reaches (by decide)) fun _ => ?_
  refine Only.bind (msleep_reaches 100) fun _ => ?_
  exact only_pure 0

/-! ## The set-up -/

/-- The registers that are written before the image. -/
def enterRegs : List (BitVec 8) := [0x02, 0x18, 0xC6, 0x3D, 0x39, 0x3A, 0x38, 0x3B]

/-- The reset and the download mode. -/
theorem enter_download_reaches : Reaches config enterRegs (enterDownload config) := by
  refine Only.bind (soft_reset_reaches.widen (by decide)) fun _ => ?_
  refine Only.bind (read_reaches (by decide)) fun _ => ?_
  refine Only.bind (write_reaches (by decide)) fun _ => ?_
  refine Only.bind (write_reaches (by decide)) fun _ => ?_
  refine Only.bind (usleep_range_reaches _ _) fun _ => ?_
  refine Only.bind (write_reaches (by decide)) fun _ => ?_
  refine Only.bind (write_reaches (by decide)) fun _ => ?_
  refine Only.bind (write_reaches (by decide)) fun _ => ?_
  refine Only.bind (write_reaches (by decide)) fun _ => ?_
  refine Only.bind (write_reaches (by decide)) fun _ => ?_
  refine Only.bind (write_reaches (by decide)) fun _ => ?_
  refine Only.bind (write_reaches (by decide)) fun _ => ?_
  exact only_pure ()

/-- One byte takes the address registers and the port. -/
theorem write_byte_reaches (i : Nat) (data : BitVec 8) :
    Reaches config [0x38, 0x3A, 0x3B, 0x3C] (writeFirmwareByte config i data) := by
  refine Only.bind (write_reaches (by decide)) fun _ => ?_
  refine Only.bind (write_reaches (by decide)) fun _ => ?_
  refine Only.bind (write_reaches (by decide)) fun _ => ?_
  refine Only.bind (write_reaches (by decide)) fun _ => ?_
  exact usleep_range_reaches _ _

/-- Readings that are only printed. -/
theorem probe_reaches {probed : List (BitVec 8)} (h : probed ⊆ regs) :
    Reaches config regs (probed.forM fun reg => do let _rr ← lgs8gxxReadReg config reg 0) := by
  induction probed with
  | nil => exact only_pure ()
  | cons first rest ih =>
      obtain ⟨hfirst, hrest⟩ := List.cons_subset.mp h
      exact Only.bind (Only.bind (read_reaches hfirst) fun _ => only_pure ()) fun _ => ih hrest

/-- The start of the firmware, and the readings after it. -/
theorem leave_download_reaches : Reaches config (0x38 :: fwProbe) (leaveDownload config) := by
  refine Only.bind (write_reaches (by decide)) fun _ => ?_
  refine Only.bind (msleep_reaches 150) fun _ => ?_
  refine Only.bind (probe_reaches (by decide)) fun _ => ?_
  refine Only.bind (msleep_reaches 300) fun _ => ?_
  refine Only.bind (read_reaches (by decide)) fun _ => ?_
  refine Only.bind (read_reaches (by decide)) fun _ => ?_
  exact only_pure ()

/-- The registers of the download. -/
def downloadRegs : List (BitVec 8) := enterRegs ++ 0x3C :: fwProbe

/-- The image goes through the download port. -/
theorem download_firmware_reaches (fw : List (BitVec 8)) :
    Reaches config downloadRegs (downloadFirmware config fw) := by
  refine Only.bind (enter_download_reaches.widen (by decide)) fun _ => ?_
  have hbyte (i : Nat) : Reaches config downloadRegs (writeFirmwareByte config i (fw.getD i 0)) :=
    (write_byte_reaches i _).widen (by decide)
  refine Only.bind (Only.loop (fun i _ _ => hbyte i) ()) fun _ => ?_
  exact leave_download_reaches.widen (by decide)

/-- With an image or without one. -/
theorem init_data_reaches : Reaches config downloadRegs (lgs8g75InitData config) := by
  refine Only.bind (other_reaches fun _ heq => LgsOp.noConfusion heq) fun image => ?_
  cases image with
  | error rc => exact only_pure rc
  | ok fw =>
      refine Only.bind (download_firmware_reaches fw) fun _ => ?_
      refine Only.bind (other_reaches fun _ heq => LgsOp.noConfusion heq) fun _ => ?_
      exact only_pure 0

/-- The range of the converter, on an LGS8G75. -/
theorem set_adc_vpp_reaches (sel : BitVec 8) :
    Reaches config [0x26, 0x27] (lgs8g75SetAdcVpp config sel) := by
  unfold lgs8g75SetAdcVpp
  split
  next => exact only_pure 0
  next =>
    refine Only.bind (write_reaches (by decide)) fun _ => ?_
    refine Only.bind (write_reaches (by decide)) fun _ => ?_
    exact only_pure 0

/-- The register of the transport stream format. -/
def modeReg (prod : BitVec 8) : BitVec 8 := if prod = lgs8gxxProdLgs8g75 then 0x30 else 0xC2

/-- The extra set-up of an LGS8913. -/
theorem lgs8913_init_reaches (stack : BitVec 8) :
    Reaches config [0xC1, 0x7C, 0xC3] (lgs8913Init config stack) := by
  refine Only.bind (write_reaches (by decide)) fun _ => ?_
  refine Only.bind (read_reaches (by decide)) fun _ => ?_
  refine Only.bind (write_reaches (by decide)) fun _ => ?_
  refine Only.bind (read_reaches (by decide)) fun _ => ?_
  refine Only.bind (write_reaches (by decide)) fun _ => ?_
  exact only_pure 0

/-- The four bytes of the frequency; their registers depend on the product. -/
theorem set_if_freq_reaches (freq : BitVec 32) :
    Reaches config [0x08, 0x09, 0x0A, 0x0B, 0x0C] (lgs8gxxSetIfFreq config freq) := by
  unfold lgs8gxxSetIfFreq
  dsimp only
  split
  all_goals
    refine Only.bind (write_reaches (by decide)) fun _ => ?_
    refine Only.bind (write_reaches (by decide)) fun _ => ?_
    refine Only.bind (write_reaches (by decide)) fun _ => ?_
    refine Only.bind (write_reaches (by decide)) fun _ => ?_
    exact only_pure 0

/-- The mode of the converter. -/
theorem set_ad_mode_reaches : Reaches config [0xBA, 0x07] (lgs8gxxSetAdMode config) := by
  unfold lgs8gxxSetAdMode
  split
  next =>
    refine Only.bind (write_reaches (by decide)) fun _ => ?_
    refine Only.bind (write_reaches (by decide)) fun _ => ?_
    exact only_pure 0
  next => exact Only.bind (write_reaches (by decide)) fun _ => only_pure 0

/-- The registers of `lgs8gxx_init` beside the transport stream format. -/
def initRegs : List (BitVec 8) :=
  downloadRegs ++ [0x26, 0x27, 0xC1, 0x7C, 0xC3, 0x08, 0x0A, 0x0B, 0x0C, 0xBA, 0x07]

variable (config) in
/-- The end of `lgs8gxx_init`. -/
theorem init_input_reaches : Reaches config initRegs (do
    let _ret ← lgs8gxxSetIfFreq config config.ifFreq
    let _ret ← lgs8gxxSetAdMode config
    return (0 : Int)) := by
  refine Only.bind ((set_if_freq_reaches _).widen (by decide)) fun _ => ?_
  refine Only.bind (set_ad_mode_reaches.widen (by decide)) fun _ => ?_
  exact only_pure 0

/-! ## The search for a channel -/

/-- The start of the automatic detection. -/
theorem start_detection_reaches (t : BitVec 8) :
    Reaches config [0x0C, 0x39, 0x3D, 0x7E, 0xC5] (startDetection config t) := by
  unfold startDetection
  split
  next =>
    refine Only.bind (read_reaches (by decide)) fun _ => ?_
    refine Only.bind (write_reaches (by decide)) fun _ => ?_
    refine Only.bind (write_reaches (by decide)) fun _ => ?_
    refine Only.bind (write_reaches (by decide)) fun _ => ?_
    exact only_pure _
  next =>
    split
    next =>
      refine Only.bind (read_reaches (by decide)) fun _ => ?_
      refine Only.bind (write_reaches (by decide)) fun _ => ?_
      refine Only.bind (read_reaches (by decide)) fun _ => ?_
      refine Only.bind (write_reaches (by decide)) fun _ => ?_
      exact only_pure _
    next => exact only_pure _

/-- The detection of the code rate, on an LGS8913. -/
theorem detect_fec_reaches (t : BitVec 8) :
    Reaches config [0xC1, 0x7C, 0xC3] (detectFec config t) := by
  unfold detectFec
  split
  next =>
    refine Only.bind (write_reaches (by decide)) fun _ => ?_
    refine Only.bind (read_reaches (by decide)) fun _ => ?_
    refine Only.bind (write_reaches (by decide)) fun _ => ?_
    refine Only.bind (read_reaches (by decide)) fun _ => ?_
    refine Only.bind (write_reaches (by decide)) fun _ => ?_
    exact only_pure _
  next => exact only_pure _

/-- The registers of the automatic mode. -/
def autoRegs : List (BitVec 8) :=
  [0xC6, 0x0C, 0x39, 0x3D, 0x7E, 0xC5, 0xC1, 0x7C, 0xC3, 0xD9]

/-- The automatic mode leaves the format alone. -/
theorem set_mode_auto_reaches (stack : BitVec 8) :
    Reaches config autoRegs (lgs8gxxSetModeAuto config stack) := by
  refine Only.bind (write_when_reaches (by decide)) fun _ => ?_
  refine Only.bind ((start_detection_reaches _).widen (by decide)) fun _ => ?_
  refine Only.bind ((detect_fec_reaches _).widen (by decide)) fun _ => ?_
  refine Only.bind (write_when_reaches (by decide)) fun _ => ?_
  exact only_pure 0

/-- The part of the manual mode that the product decides. -/
theorem manual_path_reaches (t t2 : BitVec 8) :
    Reaches config [0x6E, 0x39, 0x3D, 0x3E, 0x53] (manualPath config t t2) := by
  unfold manualPath
  split
  next =>
    refine Only.bind (write_reaches (by decide)) fun _ => ?_
    refine Only.bind (write_reaches (by decide)) fun _ => ?_
    refine Only.bind (write_reaches (by decide)) fun _ => ?_
    refine Only.bind (write_reaches (by decide)) fun _ => ?_
    refine Only.bind (write_reaches (by decide)) fun _ => ?_
    refine Only.bind (write_reaches (by decide)) fun _ => ?_
    exact only_pure _
  next =>
    refine Only.bind (write_reaches (by decide)) fun _ => ?_
    refine Only.bind (write_reaches (by decide)) fun _ => ?_
    refine Only.bind (write_reaches (by decide)) fun _ => ?_
    exact only_pure _

/-- The registers of the manual mode. -/
def manualRegs : List (BitVec 8) :=
  [0x0C, 0x19, 0x6E, 0x39, 0x3D, 0x3E, 0x53, 0x02, 0x7E, 0xC1, 0xC5]

/-- The manual mode ends with a soft reset. -/
theorem set_mode_manual_reaches (stack stack2 : BitVec 8) :
    Reaches config manualRegs (lgs8gxxSetModeManual config stack stack2) := by
  unfold lgs8gxxSetModeManual
  split
  next =>
    refine Only.bind (read_reaches (by decide)) fun _ => ?_
    refine Only.bind (write_reaches (by decide)) fun _ => ?_
    refine Only.bind (read_reaches (by decide)) fun _ => ?_
    refine Only.bind (read_reaches (by decide)) fun _ => ?_
    refine Only.bind ((manual_path_reaches _ _).widen (by decide)) fun _ => ?_
    refine Only.bind (soft_reset_reaches.widen (by decide)) fun _ => ?_
    exact only_pure _
  next =>
    refine Only.bind (write_reaches (by decide)) fun _ => ?_
    refine Only.bind (write_when_reaches (by decide)) fun _ => ?_
    refine Only.bind (read_reaches (by decide)) fun _ => ?_
    refine Only.bind (write_reaches (by decide)) fun _ => ?_
    refine Only.bind (soft_reset_reaches.widen (by decide)) fun _ => ?_
    exact only_pure _

/-- A wait reads its register only, however often. -/
theorem wait_reg_mask_reaches (hreg : reg ∈ regs) (mask val : BitVec 8) (delay tries : Nat)
    (t : BitVec 8) : Reaches config regs (waitRegMask config reg mask val delay tries t) := by
  induction tries generalizing t with
  | zero => exact only_pure 1
  | succ tries ih =>
      refine Only.bind (read_reaches hreg) fun read => ?_
      dsimp only
      split
      next => exact only_pure 0
      next => exact Only.bind (msleep_reaches delay) fun _ => ih _

/-- The status registers that are waited for. -/
def statusRegs : List (BitVec 8) := [0x13, 0x4B, 0x1F, 0xA4]

/-- The lock is in one of the status registers. -/
theorem ca_lock_reg (prod : BitVec 8) : (caLock prod).reg ∈ statusRegs := by
  unfold caLock
  split <;> decide

/-- So is the end of the detection. -/
theorem detection_end_reg (prod : BitVec 8) : (detectionEnd prod).reg ∈ statusRegs := by
  unfold detectionEnd
  split <;> decide

/-- The wait for the lock. -/
theorem wait_ca_lock_reaches (stack : BitVec 8) :
    Reaches config statusRegs (lgs8gxxWaitCaLock config stack) :=
  Only.bind (wait_reg_mask_reaches (ca_lock_reg _) _ _ _ _ _) fun _ => only_pure _

/-- The wait for the end of the detection. -/
theorem is_autodetect_finished_reaches (stack : BitVec 8) :
    Reaches config statusRegs (lgs8gxxIsAutodetectFinished config stack) :=
  Only.bind (wait_reg_mask_reaches (detection_end_reg _) _ _ _ _ _) fun _ => only_pure _

/-- A guard interval is selected in one register, on an LGS8G75 in the bits of two. -/
theorem select_gi_reaches (stack : TryStack) (gi cpn : BitVec 8) :
    Reaches config [0x0C, 0x18, 0x04] (selectGi config stack gi cpn) := by
  unfold selectGi
  split
  next =>
    refine Only.bind (read_reaches (by decide)) fun _ => ?_
    refine Only.bind (read_reaches (by decide)) fun _ => ?_
    refine Only.bind (write_reaches (by decide)) fun _ => ?_
    refine Only.bind (write_reaches (by decide)) fun _ => ?_
    exact only_pure _
  next => exact Only.bind (write_reaches (by decide)) fun _ => only_pure _

/-- The registers of the wait for a lock, after the setting was put into effect. -/
def lockRegs : List (BitVec 8) := 0x02 :: statusRegs

/-- A setting takes effect with a soft reset, and is waited for. -/
theorem await_lock_reaches (stack : TryStack) :
    Reaches config lockRegs (awaitLock config stack) := by
  refine Only.bind (soft_reset_reaches.widen (by decide)) fun _ => ?_
  refine Only.bind ((wait_ca_lock_reaches _).widen (by decide)) fun lock => ?_
  dsimp only
  split
  next => exact only_pure _
  next =>
    refine Only.bind ((is_autodetect_finished_reaches _).widen (by decide)) fun finish => ?_
    split <;> exact only_pure _

/-- The registers of a setting. -/
def tryRegs : List (BitVec 8) := [0x0C, 0x18, 0x04] ++ lockRegs

/-- One setting of the search. -/
theorem autolock_gi_reaches (stack : TryStack) (gi cpn : BitVec 8) :
    Reaches config tryRegs (lgs8gxxAutolockGi config stack gi cpn) :=
  Only.bind ((select_gi_reaches _ _ _).widen (by decide)) fun _ =>
  (await_lock_reaches stack).widen (by decide)

/-- The set-up before the search. -/
theorem prepare_detection_reaches (stack : BitVec 8) :
    Reaches config (autoRegs ++ [0x67, 0x6E, 0x03]) (prepareDetection config stack) := by
  refine Only.bind ((set_mode_auto_reaches _).widen (by decide)) fun _ => ?_
  split
  next =>
    refine Only.bind (write_reaches (by decide)) fun _ => ?_
    refine Only.bind (write_reaches (by decide)) fun _ => ?_
    exact only_pure _
  next => exact Only.bind (write_reaches (by decide)) fun _ => only_pure _

/-- The parameters that the detection found. -/
theorem read_param_reaches (stack : BitVec 8) :
    Reaches config [0xA2, 0x1F] (readParam config stack) := by
  unfold readParam
  split
  next => exact Only.bind (read_reaches (by decide)) fun _ => only_pure _
  next => exact Only.bind (read_reaches (by decide)) fun _ => only_pure _

/-- They are read only where the search succeeded. -/
theorem finish_detection_reaches (stack param gi : BitVec 8) (found : DetectExit) :
    Reaches config [0xA2, 0x1F] (finishDetection config stack param gi found) := by
  unfold finishDetection
  split
  next => exact only_pure _
  next =>
    split
    next => exact Only.bind (read_param_reaches _) fun _ => only_pure _
    next => exact only_pure _

/-- The parameters go to one register, on an LGS8G75 with the bits beside them. -/
theorem apply_param_reaches (stack param : BitVec 8) :
    Reaches config [0x19, 0x7D, 0xC0] (applyParam config stack param) := by
  unfold applyParam
  split
  next =>
    refine Only.bind (read_reaches (by decide)) fun _ => ?_
    refine Only.bind (write_reaches (by decide)) fun _ => ?_
    exact only_pure _
  next => exact Only.bind (write_reaches (by decide)) fun _ => write_when_reaches (by decide)

/-- One setting, seen from the loop. -/
theorem try_gi_reaches (stack : TryStack) (gi cpn : BitVec 8) :
    Reaches config tryRegs (tryGi config stack gi cpn) :=
  Only.bind (autolock_gi_reaches stack gi cpn) fun _ => only_pure _

/-- One round of the search has five settings. -/
theorem try_round_reaches (stack : Nat → TryStack) (i : Nat) :
    Reaches config tryRegs (tryRound config stack i) :=
  .orElse (.search (fun _ => try_gi_reaches _ _ _) _)
    (.orElse (.search (fun _ => try_gi_reaches _ _ _) _) (try_gi_reaches _ _ _))

/-- The registers of the detection. -/
def detectRegs : List (BitVec 8) := autoRegs ++ [0x67, 0x6E, 0x03, 0xA2, 0x1F] ++ tryRegs

/-- The whole detection. -/
theorem auto_detect_reaches (stack : DetectStack) (param gi : BitVec 8) :
    Reaches config detectRegs (lgs8gxxAutoDetect config stack param gi) := by
  refine Only.bind ((prepare_detection_reaches _).widen (by decide)) fun _ => ?_
  refine Only.bind (Reaches.widen (Only.search (fun _ => try_round_reaches _ _) _) (by decide))
    fun _ => ?_
  exact (finish_detection_reaches _ _ _ _).widen (by decide)

/-- The registers of `lgs8gxx_auto_lock`. -/
def lockerRegs : List (BitVec 8) := detectRegs ++ [0x19, 0x7D, 0xC0] ++ manualRegs

/-- The detection, the parameters it found, and the manual mode with them. -/
theorem auto_lock_reaches (stack : LockStack) :
    Reaches config lockerRegs (lgs8gxxAutoLock config stack) := by
  refine Only.bind ((auto_detect_reaches _ _ _).widen (by decide)) fun _ => ?_
  refine Only.bind ((apply_param_reaches _ _).widen (by decide)) fun _ => ?_
  refine Only.bind (soft_reset_reaches.widen (by decide)) fun _ => ?_
  refine Only.bind ((set_mode_manual_reaches _ _).widen (by decide)) fun _ => ?_
  exact only_pure _

/-- The gate to the tuner is a register of its own. -/
theorem i2c_gate_ctrl_reaches (tunerAddress : BitVec 8) (enable : Bool) :
    Reaches config [0x01] (lgs8gxxI2cGateCtrl config tunerAddress enable) := by
  unfold lgs8gxxI2cGateCtrl
  split
  next => exact only_pure _
  next => split <;> exact write_reaches (by decide)

/-! ## The reports -/

/-- A word is read byte by byte. -/
theorem gather_bytes_reaches {gathered : List (BitVec 8)} (h : gathered ⊆ regs) (t : BitVec 8)
    (v : BitVec 32) : Reaches config regs (gatherBytes config gathered t v) := by
  induction gathered generalizing t v with
  | nil => exact only_pure _
  | cons first rest ih =>
      obtain ⟨hfirst, hrest⟩ := List.cons_subset.mp h
      exact Only.bind (read_reaches hfirst) fun _ => ih hrest _ _

/-- The registers of `lgs8gxx_read_status`. -/
def reportRegs : List (BitVec 8) :=
  [0x20, 0x21, 0x22, 0x23, 0x45, 0x46, 0x47, 0x48] ++ statusRegs

/-- The phase is in four registers. -/
theorem get_afc_phase_reaches (stack : BitVec 8) :
    Reaches config reportRegs (lgs8gxxGetAfcPhase config stack) := by
  refine Only.bind (gather_bytes_reaches ?_ _ _) fun _ => only_pure _
  split <;> decide

/-- The lock is read without a wait. -/
theorem is_locked_reaches (stack locked : BitVec 8) :
    Reaches config statusRegs (lgs8gxxIsLocked config stack locked) := by
  refine Only.bind (read_reaches (ca_lock_reg _)) fun read => ?_
  dsimp only
  split <;> exact only_pure _

/-- The status takes the phase and the lock, and the flags of the other products. -/
theorem read_status_reaches (afc isLocked stack : BitVec 8) :
    Reaches config reportRegs (lgs8gxxReadStatus config afc isLocked stack) := by
  refine Only.bind (get_afc_phase_reaches _) fun _ => ?_
  refine Only.bind ((is_locked_reaches _ _).widen (by decide)) fun lock => ?_
  dsimp only
  split
  next => exact only_pure _
  next =>
    refine Only.bind (read_reaches (by decide)) fun read => ?_
    split
    next => exact only_pure _
    next => split <;> exact only_pure _

/-- The registers of the signal strength. -/
def strengthRegs : List (BitVec 8) :=
  [0x3F, 0x3E, 0x84, 0x83, 0x94, 0x4B, 0x95, 0xB1, 0xB0]

/-- One sample of the strength. -/
theorem sample_strength_reaches (i : Nat) (vars : BitVec 8 × BitVec 16) :
    Reaches config strengthRegs (sampleStrength config i vars) := by
  refine Only.bind (write_when_reaches (by decide)) fun _ => ?_
  refine Only.bind (write_reaches (by decide)) fun _ => ?_
  refine Only.bind (read_reaches (by decide)) fun _ => ?_
  exact only_pure _

/-- The signal strength of every product. -/
theorem read_signal_strength_reaches (fake : Bool) (currGi : BitVec 16) (stack stack2 : BitVec 8)
    (signal : BitVec 16) : Reaches config strengthRegs
      (lgs8gxxReadSignalStrength config fake currGi stack stack2 signal) := by
  unfold lgs8gxxReadSignalStrength
  split
  next =>
    refine Only.bind (read_reaches (by decide)) fun read => ?_
    dsimp only
    split
    next => exact only_pure _
    next =>
      split
      next => exact only_pure _
      next =>
        refine Only.bind (Only.loop (fun i _ vars => sample_strength_reaches i vars) _) fun _ => ?_
        refine Only.bind (read_reaches (by decide)) fun _ => ?_
        exact only_pure _
  next =>
    split
    next =>
      refine Only.bind (read_reaches (by decide)) fun _ => ?_
      refine Only.bind (read_reaches (by decide)) fun _ => ?_
      exact only_pure _
    next =>
      refine Only.bind (read_reaches (by decide)) fun _ => ?_
      refine Only.bind (read_reaches (by decide)) fun _ => ?_
      exact only_pure _

/-- The signal to noise ratio. -/
theorem read_snr_reaches (stack : BitVec 8) :
    Reaches config [0x34, 0x95] (lgs8gxxReadSnr config stack) := by
  refine Only.bind (read_reaches ?_) fun _ => only_pure _
  split <;> decide

/-- The registers of the counters: those of the format among them on an LGS8G75. -/
def counterControl (prod : BitVec 8) : BitVec 8 := if prod = lgs8gxxProdLgs8g75 then 0x30 else 0xC6

/-- The counters are started through their control register. -/
theorem packet_counter_start_reaches (stack : BitVec 8) :
    Reaches config [counterControl config.prod] (packetCounterStart config stack) := by
  have hmem : counterControl config.prod ∈ [counterControl config.prod] :=
    List.mem_singleton.mpr rfl
  unfold packetCounterStart
  split
  next h75 =>
    rw [counterControl, if_pos h75] at hmem ⊢
    refine Only.bind (read_reaches hmem) fun _ => ?_
    refine Only.bind (write_reaches hmem) fun _ => ?_
    refine Only.bind (write_reaches hmem) fun _ => ?_
    refine Only.bind (write_reaches hmem) fun _ => ?_
    exact only_pure _
  next h75 =>
    rw [counterControl, if_neg h75] at hmem ⊢
    refine Only.bind (write_reaches hmem) fun _ => ?_
    refine Only.bind (write_reaches hmem) fun _ => ?_
    refine Only.bind (write_reaches hmem) fun _ => ?_
    exact only_pure _

/-- They are stopped through the same register. -/
theorem packet_counter_stop_reaches (stack : BitVec 8) :
    Reaches config [counterControl config.prod] (packetCounterStop config stack) := by
  have hmem : counterControl config.prod ∈ [counterControl config.prod] :=
    List.mem_singleton.mpr rfl
  unfold packetCounterStop
  split
  next h75 =>
    rw [counterControl, if_pos h75] at hmem ⊢
    refine Only.bind (read_reaches hmem) fun _ => ?_
    refine Only.bind (write_reaches hmem) fun _ => ?_
    exact only_pure _
  next h75 =>
    rw [counterControl, if_neg h75] at hmem ⊢
    exact Only.bind (write_reaches hmem) fun _ => only_pure _

/-- The registers of the counters' values. -/
def countRegs : List (BitVec 8) :=
  [0x28, 0x29, 0x2A, 0x2B, 0x2C, 0x2D, 0x2E, 0x2F, 0xD0, 0xD1, 0xD2, 0xD3, 0xD4, 0xD5, 0xD6, 0xD7]

/-- Eight registers hold the two counters. -/
theorem read_counters_reaches (stack : BitVec 8) :
    Reaches config countRegs (readCounters config stack) := by
  have hregs : counterRegs config.prod = (0x28, 0x2C) ∨ counterRegs config.prod = (0xD0, 0xD4) := by
    unfold counterRegs
    split
    next => exact Or.inl rfl
    next => exact Or.inr rfl
  unfold readCounters
  obtain hregs | hregs := hregs
  all_goals
    rw [hregs]
    refine Only.bind (gather_bytes_reaches (by decide) _ _) fun _ => ?_
    refine Only.bind (gather_bytes_reaches (by decide) _ _) fun _ => ?_
    exact only_pure _

end Saa7231
