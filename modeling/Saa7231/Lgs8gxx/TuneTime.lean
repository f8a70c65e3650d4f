import Saa7231.Interaction.Cost
import Saa7231.Lgs8gxx.AutoDetect

/-!
# How long tuning takes

The pauses of `lgs8gxx_set_fe` are bounded whatever the demodulator answers. The longest tuning is
one in which every setting locks at the last poll and never finishes its detection;
`set_fe_time` says that no tuning waits longer, and that a tuning of every product may wait as long.
-/

namespace Saa7231

open Interaction Program

/-- The time that an operation takes at most, from that of a transfer and that of a millisecond. -/
def timePrice (transfer millisecond : Nat) : LgsOp → Nat
  | .i2cTransfer _ => transfer
  | .msleep milliseconds => milliseconds * millisecond
  | .usleepRange _ most => most * millisecond / 1000
  | .requestFirmware | .releaseFirmware => 0

/-! ## Every run -/

section Within

variable {transfer millisecond : Nat} {config : Lgs8gxxConfig}

/-- A write costs one transfer. -/
theorem write_reg_within (reg data : BitVec 8) :
    Within (timePrice transfer millisecond) (fun _ => transfer)
      (lgs8gxxWriteReg config reg data) :=
  (within_perform (Nat.le_refl _)).andThen fun _ => within_end

/-- So does a read. -/
theorem read_reg_within (reg p : BitVec 8) :
    Within (timePrice transfer millisecond) (fun _ => transfer) (lgs8gxxReadReg config reg p) :=
  (within_perform (Nat.le_refl _)).andThen fun _ => within_end

/-- A sleep costs its milliseconds. -/
theorem msleep_within (milliseconds : Nat) :
    Within (timePrice transfer millisecond) (fun _ => milliseconds * millisecond)
      (LgsProgram.msleep milliseconds) :=
  within_perform (show timePrice transfer millisecond (.msleep milliseconds) ≤ _ from
    Nat.le_refl _)

/-- A soft reset costs two writes and two sleeps. -/
theorem soft_reset_within :
    Within (timePrice transfer millisecond) (fun _ => 2 * transfer + 101 * millisecond)
      (lgs8gxxSoftReset config) :=
  ((write_reg_within _ _).andThen fun _ => (msleep_within 1).andThen fun _ =>
    (write_reg_within _ _).andThen fun _ => (msleep_within 100).andThen fun _ =>
    within_end).mono fun _ => by omega

/-- Every round of a wait costs a read and a sleep. -/
theorem cost_pauses (reg : BitVec 8) (delay : Nat) (answers : List (Int × List I2cMsg)) :
    cost (timePrice transfer millisecond) (pauses config reg delay answers) =
      answers.length * (transfer + delay * millisecond) := by
  induction answers with
  | nil => exact (Nat.zero_mul _).symm
  | cons answer rest ih =>
      show cost _ (readStep config reg answer :: ⟨.msleep delay, ()⟩ :: pauses _ _ _ rest) = _
      rw [cost_cons, cost_cons, ih, List.length_cons, Nat.succ_mul]
      show transfer + (delay * millisecond + _) = _
      omega

/-- A wait that ends with the value saves its last pause. -/
theorem Sees.cost_le {field : StatusField} {delay tries : Nat} {t : BitVec 8}
    {steps : List LgsStep} (h : Sees config field delay (tries + 1) t steps) :
    cost (timePrice transfer millisecond) steps ≤
      tries * (transfer + delay * millisecond) + transfer := by
  obtain ⟨earlier, last, _, _, hlength, rfl, _, _⟩ := h
  rw [cost_append, cost_pauses, cost_cons, cost_nil]
  have hle := Nat.mul_le_mul_right (transfer + delay * millisecond) (Nat.le_of_lt_succ hlength)
  show _ + (transfer + 0) ≤ _
  omega

/-- A wait that misses its field costs all of its tries. -/
theorem Misses.cost_le {field : StatusField} {delay tries : Nat} {t : BitVec 8}
    {steps : List LgsStep} (h : Misses config field delay tries t steps) :
    cost (timePrice transfer millisecond) steps ≤ tries * (transfer + delay * millisecond) := by
  obtain ⟨answers, rfl, rfl, _⟩ := h
  exact Nat.le_of_eq (cost_pauses _ _ _)

/-- The selection of a guard interval. -/
theorem select_gi_within (stack : TryStack) (gi cpn : BitVec 8) :
    Within (timePrice transfer millisecond) (fun _ => 4 * transfer)
      (selectGi config stack gi cpn) := by
  refine within_ite (fun _ => ?_) fun _ => ?_
  · exact ((read_reg_within _ _).andThen fun _ => (read_reg_within _ _).andThen fun _ =>
      (write_reg_within _ _).andThen fun _ => (write_reg_within _ _).andThen fun _ =>
      within_end).mono fun _ => by omega
  · exact ((write_reg_within _ _).andThen fun _ =>
      within_end).mono fun _ => by omega

/-- With the soft reset that puts it into effect. -/
theorem Selects.cost_le {stack : TryStack} {setting : Try} {steps : List LgsStep}
    (h : Selects config stack setting steps) :
    cost (timePrice transfer millisecond) steps ≤ 6 * transfer + 101 * millisecond := by
  obtain ⟨select, reset, ret, rfl, hselect, hreset⟩ := h
  have hfirst : cost (timePrice transfer millisecond) select ≤ _ :=
    (select_gi_within _ _ _).le hselect
  have hsecond : cost (timePrice transfer millisecond) reset ≤ _ := soft_reset_within.le hreset
  rw [cost_append]
  omega

/-- One setting: the longest is one that locks at the last poll and does not finish. -/
theorem try_setting_within (stack : Nat → TryStack) (setting : Try) :
    Within (timePrice transfer millisecond) (fun _ => 66 * transfer + 2251 * millisecond)
      (trySetting config stack setting) := by
  intro steps found h
  show cost _ steps ≤ 66 * transfer + 2251 * millisecond
  obtain ⟨-, select, lock, finish, rfl, hselect, hlock, hfinish⟩ |
    ⟨-, select, lock, finish, rfl, hselect, ⟨hlock, rfl⟩ | ⟨hlock, hfinish⟩⟩ := try_setting_cases h
  all_goals
    have hfirst : cost (timePrice transfer millisecond) select ≤ _ := hselect.cost_le
    have hsecond : cost (timePrice transfer millisecond) lock ≤ _ := hlock.cost_le
    rw [cost_append, cost_append]
  · have hthird : cost (timePrice transfer millisecond) finish ≤ _ := hfinish.cost_le
    omega
  · rw [cost_nil]
    omega
  · have hthird : cost (timePrice transfer millisecond) finish ≤ _ := hfinish.cost_le
    omega

/-- The start of the detection. -/
theorem start_detection_within (t : BitVec 8) :
    Within (timePrice transfer millisecond) (fun _ => 4 * transfer)
      (startDetection config t) := by
  refine within_ite (fun _ => ?_) fun _ => within_ite (fun _ => ?_) fun _ => within_pure
  · exact ((read_reg_within _ _).andThen fun _ => (write_reg_within _ _).andThen fun _ =>
      (write_reg_within _ _).andThen fun _ => (write_reg_within _ _).andThen fun _ =>
      within_end).mono fun _ => by omega
  · exact ((read_reg_within _ _).andThen fun _ => (write_reg_within _ _).andThen fun _ =>
      (read_reg_within _ _).andThen fun _ => (write_reg_within _ _).andThen fun _ =>
      within_end).mono fun _ => by omega

/-- A write that depends on a condition costs a transfer where it holds. -/
theorem write_when_within (c : Prop) [Decidable c] (reg data : BitVec 8) :
    Within (timePrice transfer millisecond) (fun _ => if c then transfer else 0)
      (writeWhen config c reg data) := by
  refine within_ite (fun hc => ?_) fun _ => within_pure
  rw [if_pos hc]
  exact ((write_reg_within _ _).andThen fun _ => within_end)

/-- The detection of the code rate costs something on an LGS8913 only. -/
theorem detect_fec_within (t : BitVec 8) :
    Within (timePrice transfer millisecond)
      (fun _ => if config.prod = lgs8gxxProdLgs8913 then 5 * transfer else 0)
      (detectFec config t) := by
  refine within_ite (fun hc => ?_) fun _ => within_pure
  rw [if_pos hc]
  exact ((write_reg_within _ _).andThen fun _ => (read_reg_within _ _).andThen fun _ =>
    (write_reg_within _ _).andThen fun _ => (read_reg_within _ _).andThen fun _ =>
    (write_reg_within _ _).andThen fun _ => within_end).mono
    fun _ => by omega

/-- The automatic mode. -/
theorem set_mode_auto_within (stack : BitVec 8) :
    Within (timePrice transfer millisecond)
      (fun _ => if config.prod = lgs8gxxProdLgs8g75 then 4 * transfer else 10 * transfer)
      (lgs8gxxSetModeAuto config stack) := by
  refine ((write_when_within _ _ _).andThen fun _ => (start_detection_within _).andThen fun _ =>
    (detect_fec_within _).andThen fun _ => (write_when_within _ _ _).andThen fun _ =>
    within_end).mono fun _ => ?_
  -- At most one of the products named is the one at hand.
  by_cases h75 : config.prod = lgs8gxxProdLgs8g75
  · simp [h75, lgs8gxxProdLgs8g75, lgs8gxxProdLgs8913, lgs8gxxProdLgs8g52]
  · by_cases h13 : config.prod = lgs8gxxProdLgs8913
    · simp only [h13, lgs8gxxProdLgs8g75, lgs8gxxProdLgs8913, lgs8gxxProdLgs8g52]
      simp only [BitVec.reduceEq, if_true, if_false]
      omega
    · rw [if_neg h75, if_neg h13, if_neg h13]
      split <;> omega

/-- The set-up before the search. -/
theorem prepare_detection_within (stack : BitVec 8) :
    Within (timePrice transfer millisecond) (fun _ => 11 * transfer)
      (prepareDetection config stack) := by
  have hregs : Within (timePrice transfer millisecond)
      (fun _ => if config.prod = lgs8gxxProdLgs8g75 then 2 * transfer else transfer) (do
        if config.prod = lgs8gxxProdLgs8g75 then
          let _ret ← lgs8gxxWriteReg config 0x67 0xAA
          let _ret ← lgs8gxxWriteReg config 0x6E 0x3F
          return ()
        else
          let _ret ← lgs8gxxWriteReg config 0x03 0x00
          return ()) := by
    refine within_ite (fun h75 => ?_) fun h75 => ?_
    · rw [if_pos h75]
      exact ((write_reg_within _ _).andThen fun _ => (write_reg_within _ _).andThen fun _ =>
        within_end).mono fun _ => by omega
    · rw [if_neg h75]
      exact (write_reg_within _ _).andThen fun _ => within_end
  exact ((set_mode_auto_within stack).andThen fun _ => hregs).mono fun _ => by split <;> omega

/-- The reading of the parameters. -/
theorem read_param_within (stack : BitVec 8) :
    Within (timePrice transfer millisecond) (fun _ => transfer) (readParam config stack) :=
  within_ite
    (fun _ => (read_reg_within _ _).andThen fun _ => within_end)
    fun _ => (read_reg_within _ _).andThen fun _ => within_end

/-- It is the only access after the search. -/
theorem finish_detection_within (stack param gi : BitVec 8) (found : DetectExit) :
    Within (timePrice transfer millisecond) (fun _ => transfer)
      (finishDetection config stack param gi found) :=
  within_ite (fun _ => within_pure) fun _ => within_ite
    (fun _ => (read_param_within _).andThen fun _ => within_end)
    fun _ => within_pure

/-- Ten settings, each with all of its waits. -/
theorem auto_detect_within (stack : DetectStack) (param gi : BitVec 8) :
    Within (timePrice transfer millisecond) (fun _ => 672 * transfer + 22510 * millisecond)
      (lgs8gxxAutoDetect config stack param gi) := by
  have htries : Within (timePrice transfer millisecond)
      (fun _ => trySchedule.length * (66 * transfer + 2251 * millisecond))
      (search (tryRound config stack.tries) [0, 1]) := by
    rw [search_rounds]
    exact within_search (try_setting_within _) _
  refine ((prepare_detection_within _).andThen fun _ => htries.andThen fun _ =>
    finish_detection_within _ _ _ _).mono fun _ => ?_
  show 11 * transfer + (10 * (66 * transfer + 2251 * millisecond) + transfer) ≤ _
  omega

/-- The parameters are written, on an LGS8G75 after a reading. -/
theorem apply_param_within (stack param : BitVec 8) :
    Within (timePrice transfer millisecond) (fun _ => 2 * transfer)
      (applyParam config stack param) := by
  refine within_ite (fun _ => ?_) fun _ => ?_
  · exact ((read_reg_within _ _).andThen fun _ => (write_reg_within _ _).andThen fun _ =>
      within_end).mono fun _ => by omega
  · exact ((write_reg_within _ _).andThen fun _ => write_when_within _ _ _).mono fun _ => by
      split <;> omega

/-- The part of the manual mode that the product decides. -/
theorem manual_path_within (t t2 : BitVec 8) :
    Within (timePrice transfer millisecond) (fun _ => 6 * transfer) (manualPath config t t2) := by
  refine within_ite (fun _ => ?_) fun _ => ?_
  · exact ((write_reg_within _ _).andThen fun _ => (write_reg_within _ _).andThen fun _ =>
      (write_reg_within _ _).andThen fun _ => (write_reg_within _ _).andThen fun _ =>
      (write_reg_within _ _).andThen fun _ => (write_reg_within _ _).andThen fun _ =>
      within_end).mono fun _ => by omega
  · exact ((write_reg_within _ _).andThen fun _ => (write_reg_within _ _).andThen fun _ =>
      (write_reg_within _ _).andThen fun _ => within_end).mono
      fun _ => by omega

/-- The manual mode, with its soft reset. -/
theorem set_mode_manual_within (stack stack2 : BitVec 8) :
    Within (timePrice transfer millisecond) (fun _ => 12 * transfer + 101 * millisecond)
      (lgs8gxxSetModeManual config stack stack2) := by
  refine within_ite (fun _ => ?_) fun _ => ?_
  · exact ((read_reg_within _ _).andThen fun _ => (write_reg_within _ _).andThen fun _ =>
      (read_reg_within _ _).andThen fun _ => (read_reg_within _ _).andThen fun _ =>
      (manual_path_within _ _).andThen fun _ => soft_reset_within.andThen fun _ =>
      within_end).mono fun _ => by omega
  · exact ((write_reg_within _ _).andThen fun _ => (write_when_within _ _ _).andThen fun _ =>
      (read_reg_within _ _).andThen fun _ => (write_reg_within _ _).andThen fun _ =>
      soft_reset_within.andThen fun _ => within_end).mono fun _ => by
      split <;> omega

/-- The whole of `lgs8gxx_auto_lock`. -/
theorem auto_lock_within (stack : LockStack) :
    Within (timePrice transfer millisecond) (fun _ => 688 * transfer + 22712 * millisecond)
      (lgs8gxxAutoLock config stack) :=
  ((auto_detect_within _ _ _).andThen fun _ => (apply_param_within _ _).andThen fun _ =>
    soft_reset_within.andThen fun _ => (set_mode_manual_within _ _).andThen fun _ =>
    within_end).mono fun _ => by omega

end Within

/-! ## The longest run -/

section Attains

variable {millisecond : Nat} {config : Lgs8gxxConfig}

/-- The answer to a read that brings a byte back. -/
def byteReply (byte : BitVec 8) : Int × List I2cMsg := (2, [⟨0, 0, []⟩, ⟨0, i2cMRd, [byte]⟩])

/-- Any byte can be read. -/
theorem read_reg_attains (reg p byte : BitVec 8) :
    Attains (timePrice 0 millisecond) (lgs8gxxReadReg config reg p) (0, byte) 0 :=
  ⟨[readStep config reg (byteReply byte)], .call (.ret _), rfl⟩

/-- A write can be acknowledged. -/
theorem write_reg_attains (reg data : BitVec 8) :
    Attains (timePrice 0 millisecond) (lgs8gxxWriteReg config reg data) 0 0 :=
  ⟨[⟨.i2cTransfer [writeMsg config reg data], ((1 : Int), [])⟩], .call (.ret _), rfl⟩

/-- A sleep takes as long as it says. -/
theorem msleep_attains (milliseconds : Nat) :
    Attains (timePrice 0 millisecond) (LgsProgram.msleep milliseconds) ()
      (milliseconds * millisecond) :=
  ⟨[⟨.msleep milliseconds, ()⟩], .call (.ret _), rfl⟩

/-- The sleeps of a soft reset are always taken. -/
theorem soft_reset_attains :
    Attains (timePrice 0 millisecond) (lgs8gxxSoftReset config) 0 (101 * millisecond) := by
  refine .cast (.bind (write_reg_attains _ _) (.bind (msleep_attains 1)
    (.bind (write_reg_attains _ _) (.bind (msleep_attains 100) attains_pure)))) ?_
  omega

/-- A wait in vain. -/
theorem wait_in_vain {reg mask val miss : BitVec 8} (hmiss : miss &&& mask ≠ val)
    (delay tries : Nat) (t : BitVec 8) :
    Attains (timePrice 0 millisecond) (waitRegMask config reg mask val delay tries t) 1
      (tries * (delay * millisecond)) := by
  induction tries generalizing t with
  | zero => exact attains_pure.cast (Nat.zero_mul _).symm
  | succ tries ih =>
      refine ((read_reg_attains reg t miss).bind ?_).cast (Nat.zero_add _)
      dsimp only
      rw [if_neg hmiss]
      exact ((msleep_attains delay).bind (ih miss)).cast (by rw [Nat.succ_mul, Nat.add_comm])

/-- A wait whose last poll sees the value. -/
theorem wait_to_last {reg mask val miss hit : BitVec 8} (hmiss : miss &&& mask ≠ val)
    (hhit : hit &&& mask = val) (delay tries : Nat) (t : BitVec 8) :
    Attains (timePrice 0 millisecond) (waitRegMask config reg mask val delay (tries + 1) t) 0
      (tries * (delay * millisecond)) := by
  induction tries generalizing t with
  | zero =>
      refine ((read_reg_attains reg t hit).bind ?_).cast (Nat.zero_add _)
      dsimp only
      rw [if_pos hhit]
      exact attains_pure.cast (Nat.zero_mul _).symm
  | succ tries ih =>
      refine ((read_reg_attains reg t miss).bind ?_).cast (Nat.zero_add _)
      dsimp only
      rw [if_neg hmiss]
      exact ((msleep_attains delay).bind (ih miss)).cast (by rw [Nat.succ_mul, Nat.add_comm])

/-- A byte that shows the value that is waited for, and one that does not. -/
structure StatusField.Reachable (field : StatusField) : Prop where
  hit : field.val &&& field.mask = field.val
  miss : 0 &&& field.mask ≠ field.val

/-- The lock can be missed. -/
theorem ca_lock_reachable (prod : BitVec 8) : (caLock prod).Reachable := by
  unfold caLock
  split <;> exact ⟨by decide, by decide⟩

/-- So can the end of the detection. -/
theorem detection_end_reachable (prod : BitVec 8) : (detectionEnd prod).Reachable := by
  unfold detectionEnd
  split <;> exact ⟨by decide, by decide⟩

/-- The longest setting. -/
theorem try_setting_attains (stack : Nat → TryStack) (setting : Try) :
    Attains (timePrice 0 millisecond) (trySetting config stack setting) none
      (2251 * millisecond) := by
  have hlock := ca_lock_reachable config.prod
  have hend := detection_end_reachable config.prod
  obtain ⟨⟨⟩, hselect⟩ := Within.attains (select_gi_within (stack setting.number) setting.gi
    setting.cpn : Within (timePrice 0 millisecond) (fun _ => 4 * 0) (selectGi config _ _ _))
    (registerBus fun _ => 0) ()
  have hwait : Attains (timePrice 0 millisecond)
      (lgs8gxxWaitCaLock config (stack setting.number).caLock) (0, 1) (1950 * millisecond) := by
    refine .cast (.bind (wait_to_last hlock.miss hlock.hit 50 39 _) attains_pure) ?_
    omega
  have hfinish : Attains (timePrice 0 millisecond)
      (lgs8gxxIsAutodetectFinished config (stack setting.number).detectionEnd) (0, 0)
      (200 * millisecond) := by
    refine .cast (.bind (wait_in_vain hend.miss 10 20 _) attains_pure) ?_
    omega
  have hgi : Attains (timePrice 0 millisecond)
      (lgs8gxxAutolockGi config (stack setting.number) setting.gi setting.cpn) (0, 0)
      (2251 * millisecond) := by
    refine .cast (.bind hselect (.bind soft_reset_attains (.bind hwait
      (.bind hfinish attains_pure)))) ?_
    omega
  exact .cast (.bind hgi attains_pure) (Nat.add_zero _)

/-- A search without a lock takes all of its sleeps. -/
theorem auto_detect_attains (stack : DetectStack) (param gi : BitVec 8) :
    Attains (timePrice 0 millisecond) (lgs8gxxAutoDetect config stack param gi) (-1, param, gi)
      (22510 * millisecond) := by
  obtain ⟨⟨⟩, hprepare⟩ := Within.attains (prepare_detection_within stack.modeAuto :
    Within (timePrice 0 millisecond) (fun _ => 11 * 0) (prepareDetection config _))
    (registerBus fun _ => 0) ()
  have htries : Attains (timePrice 0 millisecond) (search (tryRound config stack.tries) [0, 1])
      none (trySchedule.length * (2251 * millisecond)) := by
    rw [search_rounds]
    exact attains_search fun setting _ => try_setting_attains stack.tries setting
  refine .cast (.bind hprepare (.bind htries attains_pure)) ?_
  show 0 + (10 * (2251 * millisecond) + 0) = _
  omega

/-- The manual mode takes those of its soft reset. -/
theorem set_mode_manual_attains (stack stack2 : BitVec 8) :
    Attains (timePrice 0 millisecond) (lgs8gxxSetModeManual config stack stack2) 0
      (101 * millisecond) := by
  unfold lgs8gxxSetModeManual
  split
  · obtain ⟨⟨⟩, hpath⟩ := Within.attains (manual_path_within 0 0 :
      Within (timePrice 0 millisecond) (fun _ => 6 * 0) (manualPath config _ _)) (registerBus fun _ => 0) ()
    refine .cast (.bind (read_reg_attains _ _ 0) (.bind (write_reg_attains _ _)
      (.bind (read_reg_attains _ _ 0) (.bind (read_reg_attains _ _ 0) (.bind hpath
      (.bind soft_reset_attains attains_pure)))))) ?_
    omega
  · obtain ⟨⟨⟩, hwrite⟩ := Within.attains ((write_when_within _ 0xC1 0).mono fun _ => by
        split <;> omega : Within (timePrice 0 millisecond) (fun _ => 0)
          (writeWhen config (config.prod = lgs8gxxProdLgs8913) 0xC1 0)) (registerBus fun _ => 0) ()
    refine .cast (.bind (write_reg_attains _ _) (.bind hwrite (.bind (read_reg_attains _ _ 0)
      (.bind (write_reg_attains _ _) (.bind soft_reset_attains attains_pure))))) ?_
    omega

/-- Without a lock the whole function takes its longest. -/
theorem auto_lock_attains (stack : LockStack) :
    Attains (timePrice 0 millisecond) (lgs8gxxAutoLock config stack) 945
      (22712 * millisecond) := by
  obtain ⟨⟨⟩, happly⟩ := Within.attains (apply_param_within stack.apply (appliedParam config.prod 0) :
    Within (timePrice 0 millisecond) (fun _ => 2 * 0) (applyParam config _ _)) (registerBus fun _ => 0) ()
  refine .cast (.bind (auto_detect_attains _ 0 gi945) (.bind happly (.bind soft_reset_attains
    (.bind (set_mode_manual_attains _ _) attains_pure)))) ?_
  omega

end Attains

/-! ## Tuning -/

section SetFe

variable {Ext : Type} {ExtAns : Ext → Type} {extPrice : Ext → Nat} {transfer millisecond : Nat}
  {α : Type} {program : LgsProgram α}

/-- The bound holds of the program inside the frontend. -/
theorem demod_within {n : Nat} (h : Within (timePrice transfer millisecond) (fun _ => n) program) :
    Within (Sum.elim (timePrice transfer millisecond) extPrice) (fun _ => n)
      (demod program : FeProgram ExtAns α) :=
  h.relabel fun _ => rfl

/-- So does the time that is attained. -/
theorem demod_attains {value : α} {total : Nat}
    (h : Attains (timePrice transfer millisecond) program value total) :
    Attains (Sum.elim (timePrice transfer millisecond) extPrice)
      (demod program : FeProgram ExtAns α) value total :=
  h.relabel (fun _ => rfl) fun _ reply => ⟨reply, rfl⟩

/-- The gate costs a write at most. -/
theorem i2c_gate_ctrl_within (config : Lgs8gxxConfig) (tunerAddress : BitVec 8) (enable : Bool) :
    Within (timePrice transfer millisecond) (fun _ => transfer)
      (lgs8gxxI2cGateCtrl config tunerAddress enable) :=
  within_ite (fun _ => within_pure) fun _ => within_ite (fun _ => write_reg_within _ _)
    fun _ => write_reg_within _ _

/-- For every configuration and every behaviour of the demodulator: beside what the tuner takes,
`lgs8gxx_set_fe` makes at most 689 transfers and sleeps at most 22.722 seconds. Without a tuner some
run sleeps exactly that long. -/
theorem set_fe_time (config : Lgs8gxxConfig) (tunerAddress : BitVec 8) (stack : LockStack)
    (params : DtvFrontendProperties)
    (setParams : Option (DtvFrontendProperties → FeProgram ExtAns (Int × DtvFrontendProperties)))
    (transfer millisecond tuner : Nat) (extPrice : Ext → Nat)
    (htuner : ∀ call ∈ setParams, ∀ params,
      Within (Sum.elim (timePrice transfer millisecond) extPrice) (fun _ => tuner) (call params)) :
    Within (Sum.elim (timePrice transfer millisecond) extPrice)
        (fun _ => tuner + 689 * transfer + 22722 * millisecond)
        (lgs8gxxSetFe config tunerAddress stack setParams params) ∧
      Attains (Sum.elim (timePrice 0 millisecond) extPrice)
        (lgs8gxxSetFe config tunerAddress stack none params : FeProgram ExtAns _)
        (0, 945, params.reported) (22722 * millisecond) := by
  have htune : Within (Sum.elim (timePrice transfer millisecond) extPrice)
      (fun _ => tuner + transfer) (tuneTuner config tunerAddress setParams params) := by
    cases setParams with
    | none => exact within_pure
    | some call =>
        exact (htuner call rfl params).andThen fun _ =>
          (demod_within (i2c_gate_ctrl_within _ _ _)).andThen fun _ => within_end
  constructor
  · exact (htune.andThen fun _ => (demod_within (auto_lock_within stack)).andThen fun _ =>
      (demod_within (msleep_within 10)).andThen fun _ => within_end).mono fun _ => by omega
  · refine .cast (.bind attains_pure (.bind (demod_attains (auto_lock_attains stack))
      (.bind (demod_attains (msleep_attains 10)) attains_pure))) ?_
    omega

/-- A tuner that refuses every channel. -/
def refusingTuner :
    Option (DtvFrontendProperties → FeProgram Empty.elim (Int × DtvFrontendProperties)) :=
  some fun params => pure (-22, params)

/-- Tuning with that tuner, on a bus whose transfers take 400 microseconds. -/
theorem set_fe_time_refused :
    Within (Sum.elim (timePrice 400 1000) Empty.elim) (fun _ => 0 + 689 * 400 + 22722 * 1000)
        (lgs8gxxSetFe a328Lgs8g75Config 0 clearedStack refusingTuner dtmbParams) ∧
      Attains (Sum.elim (timePrice 0 1000) Empty.elim)
        (lgs8gxxSetFe a328Lgs8g75Config 0 clearedStack none dtmbParams : FeProgram Empty.elim _)
        (0, 945, dtmbParams.reported) (22722 * 1000) :=
  set_fe_time a328Lgs8g75Config 0 clearedStack dtmbParams refusingTuner 400 1000 0 Empty.elim
    fun call hcall params => by
      obtain rfl := Option.mem_some.mp hcall
      exact within_pure

end SetFe

end Saa7231
