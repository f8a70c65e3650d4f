import Saa7231.Lgs8gxx.Tune

/-!
# The order of the detection

`lgs8gxx_auto_detect` goes through five settings twice and stops at the first one that locks.
A setting locks when the demodulator shows the code acquisition lock within 40 polls and then the
end of its detection within 20. `auto_detect_first_lock` reads the settings tried, and what became
of each, off every transcript.
-/

namespace Saa7231

open Interaction Program

abbrev LgsStep : Type := Exchange LgsOp LgsAns

/-! ## Polls -/

/-- A read of a register with its answer. -/
def readStep (config : Lgs8gxxConfig) (reg : BitVec 8) (answer : Int × List I2cMsg) : LgsStep :=
  ⟨.i2cTransfer (readMsgs config reg), answer⟩

/-- A local after a read into it: a read that fails leaves it alone. -/
def readInto (p : BitVec 8) (answer : Int × List I2cMsg) : BitVec 8 :=
  if answer.1 ≠ 2 then p else readByte answer.2

/-- The local of `wait_reg_mask` after each of its reads. -/
def polled (t : BitVec 8) : List (Int × List I2cMsg) → List (BitVec 8)
  | [] => []
  | answer :: rest => readInto t answer :: polled (readInto t answer) rest

/-- Reads of a register, each with a pause after it. -/
def pauses (config : Lgs8gxxConfig) (reg : BitVec 8) (delay : Nat)
    (answers : List (Int × List I2cMsg)) : List LgsStep :=
  answers.flatMap fun answer => [readStep config reg answer, ⟨.msleep delay, ()⟩]

/-- The value that is waited for. -/
def StatusField.Shows (field : StatusField) (t : BitVec 8) : Prop := t &&& field.mask = field.val

/-- One of the polls, and none before it, shows the value. -/
def Sees (config : Lgs8gxxConfig) (field : StatusField) (delay tries : Nat) (t : BitVec 8)
    (steps : List LgsStep) : Prop :=
  ∃ earlier last missed seen, earlier.length < tries ∧
    steps = pauses config field.reg delay earlier ++ [readStep config field.reg last] ∧
    polled t (earlier ++ [last]) = missed ++ [seen] ∧ (∀ value ∈ missed, ¬ field.Shows value) ∧
    field.Shows seen

/-- None of the polls shows the value. -/
def Misses (config : Lgs8gxxConfig) (field : StatusField) (delay tries : Nat) (t : BitVec 8)
    (steps : List LgsStep) : Prop :=
  ∃ answers, answers.length = tries ∧ steps = pauses config field.reg delay answers ∧
    ∀ value ∈ polled t answers, ¬ field.Shows value

section Polls

variable {config : Lgs8gxxConfig} {field : StatusField} {delay : Nat} {t : BitVec 8}
  {steps : List LgsStep}

theorem read_reg_produces {reg p : BitVec 8} {result : Int × BitVec 8}
    (h : Produces (lgs8gxxReadReg config reg p) steps result) :
    ∃ answer, steps = [readStep config reg answer] ∧ result.2 = readInto p answer := by
  obtain ⟨answer, rest, rfl, hrest⟩ := produces_call.mp h
  obtain ⟨rfl, rfl⟩ := produces_pure.mp hrest
  refine ⟨answer, rfl, ?_⟩
  show (if answer.1 ≠ 2 then ((-1 : Int), p) else (0, readByte answer.2)).2 = _
  unfold readInto
  split <;> rfl

/-- A poll that misses, before others. -/
theorem Sees.after {tries : Nat} {answer : Int × List I2cMsg}
    (hmiss : ¬ field.Shows (readInto t answer))
    (h : Sees config field delay tries (readInto t answer) steps) :
    Sees config field delay (tries + 1) t
      (readStep config field.reg answer :: ⟨.msleep delay, ()⟩ :: steps) := by
  obtain ⟨earlier, last, missed, seen, hlength, rfl, hpolled, hmissed, hseen⟩ := h
  refine ⟨answer :: earlier, last, readInto t answer :: missed, seen,
    Nat.succ_lt_succ hlength, rfl, congrArg (readInto t answer :: ·) hpolled, ?_, hseen⟩
  exact List.forall_mem_cons.mpr ⟨hmiss, hmissed⟩

theorem Misses.after {tries : Nat} {answer : Int × List I2cMsg}
    (hmiss : ¬ field.Shows (readInto t answer))
    (h : Misses config field delay tries (readInto t answer) steps) :
    Misses config field delay (tries + 1) t
      (readStep config field.reg answer :: ⟨.msleep delay, ()⟩ :: steps) := by
  obtain ⟨answers, rfl, rfl, hmissed⟩ := h
  exact ⟨answer :: answers, rfl, rfl, List.forall_mem_cons.mpr ⟨hmiss, hmissed⟩⟩

/-- `wait_reg_mask` returns 0 exactly when a poll sees the value. -/
theorem wait_reg_mask_cases {tries : Nat} {ret : Int}
    (h : Produces (waitRegMask config field.reg field.mask field.val delay tries t) steps ret) :
    (ret = 0 ∧ Sees config field delay tries t steps) ∨
      (ret = 1 ∧ Misses config field delay tries t steps) := by
  induction tries generalizing t steps with
  | zero =>
      obtain ⟨rfl, rfl⟩ := produces_pure.mp h
      exact Or.inr ⟨rfl, [], rfl, rfl, fun value hvalue => absurd hvalue List.not_mem_nil⟩
  | succ tries ih =>
      obtain ⟨read, ⟨_, value⟩, rest, rfl, hread, hrest⟩ := produces_bind.mp h
      obtain ⟨answer, rfl, rfl⟩ := read_reg_produces hread
      dsimp only at hrest
      split at hrest
      next hshows =>
        obtain ⟨rfl, rfl⟩ := produces_pure.mp hrest
        refine Or.inl ⟨rfl, [], answer, [], readInto t answer, Nat.succ_pos tries, rfl, rfl, ?_,
          hshows⟩
        exact fun value hvalue => absurd hvalue List.not_mem_nil
      next hmiss =>
        obtain ⟨⟨⟩, later, rfl, hlater⟩ := produces_call.mp hrest
        obtain ⟨hret, hsees⟩ | ⟨hret, hmisses⟩ := ih hlater
        · exact Or.inl ⟨hret, hsees.after hmiss⟩
        · exact Or.inr ⟨hret, hmisses.after hmiss⟩

end Polls

/-! ## One setting -/

/-- A setting of `lgs8gxx_auto_detect`: the number of the try, the guard interval and the carrier
mode. -/
structure Try where
  number : Nat
  gi : BitVec 8
  cpn : BitVec 8

/-- The settings in the order of the loops. -/
def trySchedule : List Try :=
  [⟨0, gi945, 0⟩, ⟨1, gi945, 1⟩, ⟨2, gi420, 0⟩, ⟨3, gi420, 1⟩, ⟨4, gi595, 1⟩,
    ⟨5, gi945, 0⟩, ⟨6, gi945, 1⟩, ⟨7, gi420, 0⟩, ⟨8, gi420, 1⟩, ⟨9, gi595, 1⟩]

/-- The steps put the setting into effect. -/
def Selects (config : Lgs8gxxConfig) (stack : TryStack) (setting : Try) (steps : List LgsStep) :
    Prop :=
  ∃ select reset ret, steps = select ++ reset ∧
    Produces (selectGi config stack setting.gi setting.cpn) select () ∧
    Produces (lgs8gxxSoftReset config) reset ret

/-- The demodulator locks with the setting and finishes its detection. -/
def LocksWith (config : Lgs8gxxConfig) (stack : Nat → TryStack) (setting : Try)
    (steps : List LgsStep) : Prop :=
  ∃ select lock finish, steps = select ++ (lock ++ finish) ∧
    Selects config (stack setting.number) setting select ∧
    Sees config (caLock config.prod) 50 40 (stack setting.number).caLock lock ∧
    Sees config (detectionEnd config.prod) 10 20 (stack setting.number).detectionEnd finish

/-- The demodulator does not lock with the setting, or locks and does not finish. -/
def FailsWith (config : Lgs8gxxConfig) (stack : Nat → TryStack) (setting : Try)
    (steps : List LgsStep) : Prop :=
  ∃ select lock finish, steps = select ++ (lock ++ finish) ∧
    Selects config (stack setting.number) setting select ∧
    ((Misses config (caLock config.prod) 50 40 (stack setting.number).caLock lock ∧ finish = []) ∨
      (Sees config (caLock config.prod) 50 40 (stack setting.number).caLock lock ∧
        Misses config (detectionEnd config.prod) 10 20 (stack setting.number).detectionEnd finish))

/-- The call of `lgs8gxx_autolock_gi` for a setting. -/
def trySetting (config : Lgs8gxxConfig) (stack : Nat → TryStack) (setting : Try) :
    LgsProgram (Option DetectExit) :=
  tryGi config (stack setting.number) setting.gi setting.cpn

section Setting

variable {config : Lgs8gxxConfig} {stack : Nat → TryStack} {steps : List LgsStep}

/-- The two rounds of `lgs8gxx_auto_detect` are a search through the schedule. -/
theorem search_rounds (config : Lgs8gxxConfig) (stack : Nat → TryStack) :
    search (tryRound config stack) [0, 1] = search (trySetting config stack) trySchedule := by
  have hround : tryRound config stack = fun i => search (trySetting config stack)
      [⟨5 * i, gi945, 0⟩, ⟨5 * i + 1, gi945, 1⟩, ⟨5 * i + 2, gi420, 0⟩, ⟨5 * i + 3, gi420, 1⟩,
        ⟨5 * i + 4, gi595, 1⟩] := by
    funext i
    unfold tryRound
    rw [← orElse_none (tryGi config (stack (5 * i + 4)) gi595 1)]
    simp only [search, orElse_none, orElse_assoc]
    rfl
  rw [hround, search_flatMap]
  rfl

/-- A function that waits for a field reports whether it saw the field. -/
theorem await_field_cases {field : StatusField} {delay tries : Nat} {stack : BitVec 8}
    {result : Int × BitVec 8}
    (h : Produces (do
      let ret ← waitRegMask config field.reg field.mask field.val delay tries stack
      return (0, if ret = 0 then 1 else 0)) steps result) :
    (result = (0, 1) ∧ Sees config field delay tries stack steps) ∨
      (result = (0, 0) ∧ Misses config field delay tries stack steps) := by
  obtain ⟨wait, ret, rest, rfl, hwait, hrest⟩ := produces_bind.mp h
  obtain ⟨rfl, rfl⟩ := produces_pure.mp hrest
  rw [List.append_nil]
  obtain ⟨rfl, hsees⟩ | ⟨rfl, hmisses⟩ := wait_reg_mask_cases hwait
  · exact Or.inl ⟨rfl, hsees⟩
  · exact Or.inr ⟨rfl, hmisses⟩

/-- `lgs8gxx_autolock_gi` never reports an error. -/
theorem autolock_gi_cases {setting : Try} {result : Int × BitVec 8}
    (h : Produces (lgs8gxxAutolockGi config (stack setting.number) setting.gi setting.cpn) steps
      result) :
    (result = (0, 1) ∧ LocksWith config stack setting steps) ∨
      (result = (0, 0) ∧ FailsWith config stack setting steps) := by
  obtain ⟨select, ⟨⟩, _, rfl, hselect, h⟩ := produces_bind.mp h
  obtain ⟨reset, ret, _, rfl, hreset, h⟩ := produces_bind.mp h
  obtain ⟨lock, ⟨err, locked⟩, rest, rfl, hlock, h⟩ := produces_bind.mp h
  have hselects : Selects config (stack setting.number) setting (select ++ reset) :=
    ⟨select, reset, ret, rfl, hselect, hreset⟩
  simp only [← List.append_assoc select reset]
  -- `lgs8gxx_wait_ca_lock` and `lgs8gxx_is_autodetect_finished` wait for their fields
  obtain ⟨heq, hsees⟩ | ⟨heq, hmisses⟩ := await_field_cases hlock
  · obtain ⟨rfl, rfl⟩ := Prod.mk.inj heq
    dsimp only at h
    rw [if_neg (by decide)] at h
    obtain ⟨finish, ⟨err, finished⟩, last, rfl, hfinish, hlast⟩ := produces_bind.mp h
    obtain ⟨heq, hend⟩ | ⟨heq, hend⟩ := await_field_cases hfinish
    · obtain ⟨rfl, rfl⟩ := Prod.mk.inj heq
      obtain ⟨rfl, rfl⟩ := produces_pure.mp hlast
      rw [List.append_nil]
      exact Or.inl ⟨rfl, _, lock, finish, rfl, hselects, hsees, hend⟩
    · obtain ⟨rfl, rfl⟩ := Prod.mk.inj heq
      obtain ⟨rfl, rfl⟩ := produces_pure.mp hlast
      rw [List.append_nil]
      exact Or.inr ⟨rfl, _, lock, finish, rfl, hselects, Or.inr ⟨hsees, hend⟩⟩
  · obtain ⟨rfl, rfl⟩ := Prod.mk.inj heq
    dsimp only at h
    rw [if_pos (Or.inr rfl)] at h
    obtain ⟨rfl, rfl⟩ := produces_pure.mp h
    exact Or.inr ⟨rfl, _, lock, [], rfl, hselects, Or.inl ⟨hmisses, rfl⟩⟩

/-- A setting leaves the loops exactly when the demodulator locks with it. -/
theorem try_setting_cases {setting : Try} {found : Option DetectExit}
    (h : Produces (trySetting config stack setting) steps found) :
    (found = some ⟨0, 1, setting.gi⟩ ∧ LocksWith config stack setting steps) ∨
      (found = none ∧ FailsWith config stack setting steps) := by
  obtain ⟨lock, ⟨err, locked⟩, rest, rfl, hlock, hrest⟩ := produces_bind.mp h
  obtain ⟨rfl, rfl⟩ := produces_pure.mp hrest
  rw [List.append_nil]
  obtain ⟨heq, hlocks⟩ | ⟨heq, hfails⟩ := autolock_gi_cases hlock
  · obtain ⟨rfl, rfl⟩ := Prod.mk.inj heq
    exact Or.inl ⟨rfl, hlocks⟩
  · obtain ⟨rfl, rfl⟩ := Prod.mk.inj heq
    exact Or.inr ⟨rfl, hfails⟩

end Setting

/-! ## The whole detection -/

section Finish

variable {config : Lgs8gxxConfig} {stack param gi tmpGi param' gi' : BitVec 8}
  {steps : List LgsStep} {err : Int}

/-- The loops ran out. -/
theorem finish_exhausted
    (h : Produces (finishDetection config stack param gi ⟨0, 0, tmpGi⟩) steps (err, param', gi')) :
    steps = [] ∧ err = -1 ∧ param' = param ∧ gi' = gi := by
  have hend : finishDetection config stack param gi ⟨0, 0, tmpGi⟩ = pure (-1, param, gi) := rfl
  rw [hend] at h
  obtain ⟨hsteps, heq⟩ := produces_pure.mp h
  exact ⟨hsteps, by simpa only [Prod.mk.injEq] using heq⟩

/-- A setting locked. -/
theorem finish_locked
    (h : Produces (finishDetection config stack param gi ⟨0, 1, tmpGi⟩) steps (err, param', gi')) :
    err = 0 ∧ gi' = tmpGi ∧ Produces (readParam config stack) steps param' := by
  obtain ⟨read, value, last, rfl, hread, hlast⟩ := produces_bind.mp h
  obtain ⟨rfl, heq⟩ := produces_pure.mp hlast
  simp only [Prod.mk.injEq] at heq
  obtain ⟨herr, rfl, hgi⟩ := heq
  exact ⟨herr, hgi, by rwa [List.append_nil]⟩

end Finish

/-- For every product and every run of `lgs8gxx_auto_detect`, with any transfers failing: the
settings are tried in the order of the schedule. If none of the ten locks, the result is -1 and the
outputs are left alone. Otherwise the detection stops at the first that does, the result is 0, `*gi`
is its guard interval, and `*detected_param` is what is read after it. -/
theorem auto_detect_first_lock (config : Lgs8gxxConfig) (stack : DetectStack)
    (param gi : BitVec 8) {steps : List LgsStep} {err : Int} {param' gi' : BitVec 8}
    (h : Produces (lgs8gxxAutoDetect config stack param gi) steps (err, param', gi')) :
    ∃ before tries rest, steps = before ++ (tries ++ rest) ∧
      Produces (prepareDetection config stack.modeAuto) before () ∧
      ((err = -1 ∧ param' = param ∧ gi' = gi ∧ rest = [] ∧
          Parts (FailsWith config stack.tries) trySchedule tries) ∨
        (err = 0 ∧ ∃ earlier setting later failed last,
          trySchedule = earlier ++ setting :: later ∧ tries = failed ++ last ∧
          Parts (FailsWith config stack.tries) earlier failed ∧
          LocksWith config stack.tries setting last ∧ gi' = setting.gi ∧
          Produces (readParam config stack.param) rest param')) := by
  obtain ⟨before, ⟨⟩, _, rfl, hbefore, h⟩ := produces_bind.mp h
  obtain ⟨tries, found, rest, rfl, htries, h⟩ := produces_bind.mp h
  refine ⟨before, tries, rest, rfl, hbefore, ?_⟩
  rw [search_rounds] at htries
  have hfails : ∀ setting steps, Fruitless (trySetting config stack.tries) setting steps →
      FailsWith config stack.tries setting steps := by
    intro setting steps hfruitless
    obtain ⟨heq, -⟩ | ⟨-, hfails⟩ := try_setting_cases hfruitless
    · cases heq
    · exact hfails
  cases found with
  | none =>
      obtain ⟨hrest, herr, hparam, hgi⟩ := finish_exhausted h
      exact Or.inl ⟨herr, hparam, hgi, hrest, (produces_search_none.mp htries).imp hfails⟩
  | some found =>
      obtain ⟨earlier, setting, later, failed, last, hschedule, hparts, hfailed, hlast⟩ :=
        produces_search_some.mp htries
      obtain ⟨heq, hlocks⟩ | ⟨heq, -⟩ := try_setting_cases hlast
      · cases heq
        obtain ⟨herr, hgi, hread⟩ := finish_locked h
        exact Or.inr ⟨herr, earlier, setting, later, failed, last, hschedule, hparts,
          hfailed.imp hfails, hlocks, hgi, hread⟩
      · cases heq

/-- A demodulator whose registers show the same bytes at any time. -/
def registerBus (file : BitVec 8 → BitVec 8) : World LgsOp LgsAns Unit where
  answer op _ := match op with
    | .i2cTransfer msgs =>
        let reg := (LgsOp.i2cTransfer msgs).reg.getD 0
        (msgs.length, msgs.map fun msg => { msg with buf := [file reg] })
    | .requestFirmware => .error (-2)
    | .msleep _ | .usleepRange _ _ | .releaseFirmware => ()
  after _ state := state

/-- Locals on a cleared stack. -/
def clearedStack : LockStack where
  modeAuto := 0
  tries := fun _ => ⟨0, 0, 0, 0⟩
  param := 0
  apply := 0
  manual := 0
  manual2 := 0

theorem register_bus_locks : ((lgs8gxxAutoDetect a328Lgs8g75Config clearedStack.toDetectStack 0
    gi420).run (registerBus fun _ => 0x80) ()).1 = (0, 0, gi945) := rfl

/-- A demodulator that locks at once is found with the first setting. -/
theorem auto_detect_locks_at_once : ∃ before tries rest,
    (lgs8gxxAutoDetect a328Lgs8g75Config clearedStack.toDetectStack 0 gi420).transcript
      (registerBus fun _ => 0x80) () = before ++ (tries ++ rest) ∧
    Produces (prepareDetection a328Lgs8g75Config 0) before () ∧
    (((0 : Int) = -1 ∧ (0 : BitVec 8) = 0 ∧ gi945 = gi420 ∧ rest = [] ∧
        Parts (FailsWith a328Lgs8g75Config clearedStack.tries) trySchedule tries) ∨
      ((0 : Int) = 0 ∧ ∃ earlier setting later failed last,
        trySchedule = earlier ++ setting :: later ∧ tries = failed ++ last ∧
        Parts (FailsWith a328Lgs8g75Config clearedStack.tries) earlier failed ∧
        LocksWith a328Lgs8g75Config clearedStack.tries setting last ∧ gi945 = setting.gi ∧
        Produces (readParam a328Lgs8g75Config 0) rest 0)) :=
  auto_detect_first_lock a328Lgs8g75Config clearedStack.toDetectStack 0 gi420
    (produces_of_run register_bus_locks)

end Saa7231
