import Saa7231.Lgs8gxx.AutoDetect
import Saa7231.Lgs8gxx.RegisterDevice

/-!
# The guard interval after a search

`lgs8gxx_auto_detect` leaves the guard interval of its last try in the demodulator, and
`lgs8gxx_auto_lock` remembers in `curr_gi` the one that was detected. After a search without a lock
the demodulator is left at 595 and the driver remembers 945: `curr_gi_agrees_iff` says that the two
agree exactly when the search found a channel.
-/

namespace Saa7231

open Interaction Program

/-- The register of the guard interval. -/
def giReg (prod : BitVec 8) : BitVec 8 := if prod = lgs8gxxProdLgs8g75 then 0x0C else 0x04

/-- The byte with a guard interval in its field, as `lgs8gxx_autolock_gi` makes it. -/
def withGi (prod byte gi : BitVec 8) : BitVec 8 :=
  if prod = lgs8gxxProdLgs8g75 then (byte &&& ~~~giMask) ||| gi else gi

/-- The byte of the automatic mode. -/
def autoByte (prod byte : BitVec 8) : BitVec 8 :=
  if prod = lgs8gxxProdLgs8g75 then (byte &&& ~~~0x04) ||| 0x80 else byte

/-- The byte of the manual mode. -/
def manualByte (prod byte : BitVec 8) : BitVec 8 :=
  if prod = lgs8gxxProdLgs8g75 then byte &&& ~~~0x80 else byte

/-- Replacing a field keeps what is beside it. -/
theorem replace_field (byte : BitVec 8) {field mask : BitVec 8} (hfield : field &&& mask = field) :
    ((byte &&& ~~~mask) ||| field) &&& mask = field ∧
      ((byte &&& ~~~mask) ||| field) &&& ~~~mask = byte &&& ~~~mask := by
  have hbeside : mask &&& ~~~mask = 0#8 := BitVec.and_not_self mask
  have hclear : field &&& ~~~mask = 0#8 := by
    rw [← hfield, BitVec.and_assoc, hbeside, BitVec.and_zero]
  constructor
  · rw [BitVec.and_or_distrib_right, hfield, BitVec.and_assoc, BitVec.and_comm (~~~mask), hbeside,
      BitVec.and_zero, BitVec.zero_or]
  · rw [BitVec.and_or_distrib_right, hclear, BitVec.and_assoc, BitVec.and_self, BitVec.or_zero]

theorem with_gi_again (prod byte : BitVec 8) {gi : BitVec 8} (hgi : gi &&& giMask = gi)
    (gi' : BitVec 8) : withGi prod (withGi prod byte gi) gi' = withGi prod byte gi' := by
  unfold withGi
  split
  next => rw [(replace_field byte hgi).2]
  next => rfl

section Runs

variable {σ α : Type} {config : Lgs8gxxConfig} {world : World LgsOp LgsAns σ}
  {value : σ → BitVec 8}

theorem gi_reg_not_mem {regs : List (BitVec 8)} (h0C : 0x0C ∉ regs) (h04 : 0x04 ∉ regs) :
    giReg config.prod ∉ regs := by
  unfold giReg
  split
  next => exact h0C
  next => exact h04

/-- The register of the guard interval, to which every access goes through. -/
structure GiRegister (config : Lgs8gxxConfig) (world : World LgsOp LgsAns σ)
    (value : σ → BitVec 8) : Prop where
  register : Register config world (giReg config.prod) value
  reads : ReadsArrive config world (giReg config.prod)
  writes : WritesArrive config world (giReg config.prod)

/-- A program that reaches other registers only. -/
theorem GiRegister.unreached (h : GiRegister config world value) {program : LgsProgram α}
    {regs : List (BitVec 8)} (hreaches : Reaches config regs program) (h0C : 0x0C ∉ regs)
    (h04 : 0x04 ∉ regs) (state : σ) : value (program.run world state).2 = value state :=
  h.register.unreached (hreaches.apart (gi_reg_not_mem h0C h04)) state

theorem GiRegister.write (h : GiRegister config world value) {reg : BitVec 8}
    (hreg : reg = giReg config.prod) (data : BitVec 8) (state : σ) :
    value ((lgs8gxxWriteReg config reg data).run world state).2 = data := by
  rw [hreg]
  exact h.register.write data state (h.writes data state)

theorem GiRegister.read (h : GiRegister config world value) {reg : BitVec 8}
    (hreg : reg = giReg config.prod) (p : BitVec 8) (state : σ) :
    ((lgs8gxxReadReg config reg p).run world state).1 = (0, value state) ∧
      value ((lgs8gxxReadReg config reg p).run world state).2 = value state := by
  rw [hreg]
  exact h.register.read_run h.reads p state

/-- A setting puts its guard interval into the register. -/
theorem select_gi_run (h : GiRegister config world value) (stack : TryStack) (gi cpn : BitVec 8)
    (state : σ) : value ((selectGi config stack gi cpn).run world state).2 =
      withGi config.prod (value state) gi := by
  unfold selectGi withGi
  split
  next h75 =>
    have hreg : 0x0C = giReg config.prod := (if_pos h75).symm
    obtain ⟨hread, hkept⟩ := h.read hreg stack.t1 state
    have hwrite (data : BitVec 8) (s : σ) :
        value ((lgs8gxxWriteReg config 0x18 data).run world s).2 = value s :=
      h.unreached (write_reaches List.mem_cons_self : Reaches config [0x18] _) (by decide)
        (by decide) s
    rw [run_bind, hread]
    dsimp only
    rw [run_bind, run_bind, run_bind]
    show value ((lgs8gxxWriteReg config 0x18 _).run world _).2 = _
    rw [hwrite, h.write hreg]
  next h75 =>
    have hreg : 0x04 = giReg config.prod := (if_neg h75).symm
    exact h.write hreg gi state

/-- What a try leaves of the byte that the register had: its guard interval, and a lock is reported
with it. -/
def Tried (prod : BitVec 8) (value : σ → BitVec 8) (byte : BitVec 8) (setting : Try)
    (result : Option DetectExit) (state : σ) : Prop :=
  value state = withGi prod byte setting.gi ∧ ∀ found ∈ result, found = ⟨0, 1, setting.gi⟩

theorem try_setting_run (h : GiRegister config world value) (stack : Nat → TryStack)
    (setting : Try) (state : σ) : Tried config.prod value (value state) setting
      ((trySetting config stack setting).run world state).1
      ((trySetting config stack setting).run world state).2 := by
  constructor
  · unfold trySetting tryGi lgs8gxxAutolockGi
    rw [run_bind, run_bind]
    exact (h.unreached (await_lock_reaches _) (by decide) (by decide) _).trans
      (select_gi_run h _ _ _ _)
  · intro found hrun
    obtain ⟨hfound, -⟩ | ⟨hfound, -⟩ :=
      try_setting_cases (produces_run world (trySetting config stack setting) state)
    · exact Option.some.inj (hrun.symm.trans hfound)
    · exact absurd (hrun.symm.trans hfound) (Option.some_ne_none found)

/-- The settings have guard intervals in the field only. -/
theorem schedule_gi {setting : Try} (h : setting ∈ trySchedule) :
    setting.gi &&& giMask = setting.gi := by
  revert setting
  decide

/-- The search leaves the guard interval of the setting it found, or of the last one. -/
theorem search_run (h : GiRegister config world value) (stack : Nat → TryStack) (state : σ) :
    (∃ setting ∈ trySchedule,
        ((search (trySetting config stack) trySchedule).run world state).1 =
          some ⟨0, 1, setting.gi⟩ ∧
        value ((search (trySetting config stack) trySchedule).run world state).2 =
          withGi config.prod (value state) setting.gi) ∨
      (((search (trySetting config stack) trySchedule).run world state).1 = none ∧
        value ((search (trySetting config stack) trySchedule).run world state).2 =
          withGi config.prod (value state) gi595) := by
  have hattempt : ∀ setting ∈ trySchedule, ∀ s,
      (∀ gi, withGi config.prod (value s) gi = withGi config.prod (value state) gi) →
      Tried config.prod value (value state) setting
        ((trySetting config stack setting).run world s).1
        ((trySetting config stack setting).run world s).2 := by
    intro setting _ s hready
    obtain ⟨hvalue, hexit⟩ := try_setting_run h stack setting s
    exact ⟨hvalue.trans (hready _), hexit⟩
  have hagain : ∀ setting ∈ trySchedule, ∀ s,
      Tried config.prod value (value state) setting none s →
      ∀ gi, withGi config.prod (value s) gi = withGi config.prod (value state) gi := by
    intro setting hmem s htried gi
    rw [htried.1, with_gi_again _ _ (schedule_gi hmem)]
  obtain ⟨setting, hmem, found, hrun, hvalue, hexit⟩ | ⟨hrun, hvalue, -⟩ :=
    run_search _ _ hattempt hagain (List.cons_ne_nil _ _) fun _ => rfl
  · exact Or.inl ⟨setting, hmem, (hexit found rfl) ▸ hrun, hvalue⟩
  · exact Or.inr ⟨hrun, hvalue⟩

/-- The automatic mode. -/
theorem set_mode_auto_run (h : GiRegister config world value) (stack : BitVec 8) (state : σ) :
    value ((lgs8gxxSetModeAuto config stack).run world state).2 =
      autoByte config.prod (value state) := by
  unfold autoByte
  split
  next h75 =>
    have h13 : config.prod ≠ lgs8gxxProdLgs8913 := by
      rw [h75]
      decide
    have h52 : config.prod ≠ lgs8gxxProdLgs8g52 := by
      rw [h75]
      decide
    have hreg : 0x0C = giReg config.prod := (if_pos h75).symm
    obtain ⟨hread, hkept⟩ := h.read hreg stack state
    have hwrite {other : BitVec 8} (hother : other = 0x39 ∨ other = 0x3D) (data : BitVec 8)
        (s : σ) : value ((lgs8gxxWriteReg config other data).run world s).2 = value s :=
      h.unreached (write_reaches List.mem_cons_self : Reaches config [other] _)
        (by rcases hother with rfl | rfl <;> decide) (by rcases hother with rfl | rfl <;> decide) s
    unfold lgs8gxxSetModeAuto writeWhen detectFec startDetection
    simp only [if_pos h75, if_neg h13, if_neg h52, pure_bind]
    rw [run_bind, run_bind, hread]
    dsimp only
    rw [run_bind, run_bind, run_bind]
    show value ((lgs8gxxWriteReg config 0x3D 0x04).run world _).2 = _
    rw [hwrite (Or.inr rfl), hwrite (Or.inl rfl), h.write hreg]
  next h75 =>
    have hreg : giReg config.prod = 0x04 := if_neg h75
    refine h.register.unreached ((set_mode_auto_reaches stack).apart ?_) state
    rw [hreg]
    decide

/-- What is set before the search. -/
theorem prepare_run (h : GiRegister config world value) (stack : BitVec 8) (state : σ) :
    value ((prepareDetection config stack).run world state).2 =
      autoByte config.prod (value state) := by
  unfold prepareDetection
  rw [run_bind, ← set_mode_auto_run h stack state]
  split
  next =>
    exact h.unreached (Only.bind (write_reaches List.mem_cons_self) fun _ =>
      Only.bind (write_reaches (by decide)) fun _ => only_pure _ : Reaches config [0x67, 0x6E] _)
      (by decide) (by decide) _
  next =>
    exact h.unreached (Only.bind (write_reaches List.mem_cons_self) fun _ => only_pure _ :
      Reaches config [0x03] _) (by decide) (by decide) _

/-- The detection returns 0 with the guard interval that it leaves in the register, or -1 with 595
there and the caller's guard interval as it was. -/
theorem auto_detect_run (h : GiRegister config world value) (stack : DetectStack)
    (param gi : BitVec 8) (state : σ) {err : Int} {param' gi' : BitVec 8} {after : σ}
    (hrun : (lgs8gxxAutoDetect config stack param gi).run world state =
      ((err, param', gi'), after)) :
    (err = 0 ∧ (∃ setting ∈ trySchedule, gi' = setting.gi) ∧
        value after = withGi config.prod (autoByte config.prod (value state)) gi') ∨
      (err = -1 ∧ gi' = gi ∧
        value after = withGi config.prod (autoByte config.prod (value state)) gi595) := by
  unfold lgs8gxxAutoDetect at hrun
  rw [run_bind, run_bind, search_rounds] at hrun
  have hready := prepare_run h stack.modeAuto state
  generalize ((prepareDetection config stack.modeAuto).run world state).2 = ready at hready hrun
  have hvalue := h.unreached (finish_detection_reaches stack.param param gi
    (((search (trySetting config stack.tries) trySchedule).run world ready).1.getD ⟨0, 0, gi595⟩))
    (by decide) (by decide) ((search (trySetting config stack.tries) trySchedule).run world ready).2
  rw [hrun] at hvalue
  obtain ⟨setting, hmem, hfound, hgi⟩ | ⟨hfound, hgi⟩ := search_run h stack.tries ready
  · rw [hfound] at hrun
    obtain ⟨herr, hsame, -⟩ := finish_locked (produces_of_run (congrArg Prod.fst hrun))
    have hgi' : gi' = setting.gi := hsame
    refine Or.inl ⟨herr, ⟨setting, hmem, hgi'⟩, hvalue.trans ?_⟩
    rw [hgi, hready, hgi']
  · rw [hfound] at hrun
    obtain ⟨-, herr, -, hgi'⟩ := finish_exhausted (produces_of_run (congrArg Prod.fst hrun))
    exact Or.inr ⟨herr, hgi', hvalue.trans (hgi.trans (congrArg (withGi _ · _) hready))⟩

/-- The manual mode. -/
theorem set_mode_manual_run (h : GiRegister config world value) (stack stack2 : BitVec 8)
    (state : σ) : value ((lgs8gxxSetModeManual config stack stack2).run world state).2 =
      manualByte config.prod (value state) := by
  by_cases h75 : config.prod = lgs8gxxProdLgs8g75
  · have hreg : 0x0C = giReg config.prod := (if_pos h75).symm
    obtain ⟨hread, hkept⟩ := h.read hreg stack state
    have hrest (t : BitVec 8) : Reaches config [0x19, 0x6E, 0x39, 0x3D, 0x3E, 0x53, 0x02] (do
        let read ← lgs8gxxReadReg config 0x19 stack2
        manualPath config t read.2
        let _ret ← lgs8gxxSoftReset config
        return (0 : Int)) := by
      refine Only.bind (read_reaches (by decide)) fun _ => ?_
      refine Only.bind ((manual_path_reaches _ _).widen (by decide)) fun _ => ?_
      refine Only.bind (soft_reset_reaches.widen (by decide)) fun _ => ?_
      exact only_pure _
    unfold lgs8gxxSetModeManual manualByte
    rw [if_pos h75, if_pos h75, run_bind, hread]
    dsimp only
    rw [run_bind, run_bind]
    refine (h.unreached (hrest _) (by decide) (by decide) _).trans ?_
    rw [(h.read hreg _ _).2, h.write hreg]
  · have hreg : giReg config.prod = 0x04 := if_neg h75
    have hmode : giReg config.prod ∉ manualRegs := by
      rw [hreg]
      decide
    rw [h.register.unreached ((set_mode_manual_reaches stack stack2).apart hmode), manualByte,
      if_neg h75]

/-- The whole of `lgs8gxx_auto_lock` on the register, from its detection on. -/
theorem auto_lock_run (h : GiRegister config world value) (stack : LockStack) {state : σ}
    {err : Int} {param gi : BitVec 8} {currGi : BitVec 16} {detected locked : σ}
    (hdetect : (lgs8gxxAutoDetect config stack.toDetectStack 0 gi945).run world state =
      ((err, param, gi), detected))
    (hlock : (lgs8gxxAutoLock config stack).run world state = (currGi, locked)) :
    currGi = currGiOf gi ∧ value locked = manualByte config.prod (value detected) := by
  unfold lgs8gxxAutoLock at hlock
  rw [run_bind, hdetect] at hlock
  dsimp only at hlock
  rw [run_bind, run_bind, run_bind] at hlock
  obtain ⟨hcurr, hlast⟩ := Prod.mk.inj hlock
  refine ⟨hcurr.symm, ?_⟩
  rw [← hlast]
  exact (set_mode_manual_run h _ _ _).trans (congrArg _
    ((h.unreached soft_reset_reaches (by decide) (by decide) _).trans
      (h.unreached (apply_param_reaches _ _) (by decide) (by decide) _)))

end Runs

/-! ## The two modes and the field -/

/-- What the register has after a search that left `gi` in its field. -/
theorem searched_byte (prod byte : BitVec 8) {gi : BitVec 8} (hgi : gi &&& giMask = gi) :
    manualByte prod (withGi prod (autoByte prod byte) gi) &&& giMask = gi ∧
      manualByte prod (withGi prod (autoByte prod byte) gi) &&& ~~~giMask =
        if prod = lgs8gxxProdLgs8g75 then byte &&& 0x78 else 0 := by
  have hmode : (~~~0x80 : BitVec 8) &&& giMask = giMask := by decide
  have hbits : ∀ b : BitVec 8, (((b &&& ~~~0x04) ||| 0x80) &&& ~~~giMask) &&& ~~~0x80 =
      b &&& 0x78 := by decide +kernel
  by_cases h75 : prod = lgs8gxxProdLgs8g75
  · rw [manualByte, withGi, autoByte, if_pos h75, if_pos h75, if_pos h75, if_pos h75]
    obtain ⟨hfield, hbeside⟩ := replace_field ((byte &&& ~~~0x04) ||| 0x80) hgi
    constructor
    · rw [BitVec.and_assoc, hmode, hfield]
    · rw [BitVec.and_assoc, BitVec.and_comm (~~~0x80), ← BitVec.and_assoc, hbeside, hbits]
  · rw [manualByte, withGi, if_neg h75, if_neg h75, if_neg h75]
    refine ⟨hgi, ?_⟩
    rw [← hgi, BitVec.and_assoc, BitVec.and_not_self]
    exact BitVec.and_zero

section Locked

variable {σ : Type} {config : Lgs8gxxConfig} {world : World LgsOp LgsAns σ}
  {value : σ → BitVec 8}

/-- On a bus where the register of the guard interval is reached, and with any other failures: after
`lgs8gxx_auto_lock` the driver's `curr_gi` is the guard interval of the demodulator if and only if
the detection succeeded. After a failure the demodulator is left at 595 and `curr_gi` is 945. Beside
the field, an LGS8G75 keeps the bits 3 to 6 of the register and loses the others. -/
theorem curr_gi_agrees_iff (h : GiRegister config world value) (stack : LockStack) {state : σ}
    {err : Int} {param gi : BitVec 8} {currGi : BitVec 16} {detected locked : σ}
    (hdetect : (lgs8gxxAutoDetect config stack.toDetectStack 0 gi945).run world state =
      ((err, param, gi), detected))
    (hlock : (lgs8gxxAutoLock config stack).run world state = (currGi, locked)) :
    (currGiOf (value locked &&& giMask) = currGi ↔ err = 0) ∧
      (err ≠ 0 → err = -1 ∧ value locked &&& giMask = gi595 ∧ currGi = 945) ∧
      value locked &&& ~~~giMask =
        if config.prod = lgs8gxxProdLgs8g75 then value state &&& 0x78 else 0 := by
  obtain ⟨hcurr, hvalue⟩ := auto_lock_run h stack hdetect hlock
  rw [hvalue, hcurr]
  obtain ⟨rfl, ⟨setting, hmem, rfl⟩, hgi⟩ | ⟨rfl, rfl, hgi⟩ := auto_detect_run h _ _ _ state hdetect
  · obtain ⟨hfield, hbeside⟩ := searched_byte config.prod (value state) (schedule_gi hmem)
    rw [hgi, hfield]
    exact ⟨iff_of_true rfl rfl, fun herr => absurd rfl herr, hbeside⟩
  · have h595 : gi595 &&& giMask = gi595 := by decide
    obtain ⟨hfield, hbeside⟩ := searched_byte config.prod (value state) h595
    rw [hgi, hfield]
    exact ⟨iff_of_false (by decide) (by decide), fun _ => ⟨rfl, rfl, rfl⟩, hbeside⟩

end Locked

/-- The registers of a demodulator that locks at once. -/
def lockingFile : BitVec 8 → BitVec 8
  | 0x13 => 0x80
  | 0x1F => 0x80
  | _ => 0xFF

theorem file_gi_register (config : Lgs8gxxConfig) :
    GiRegister config (fileWorld config) (fun line => line.file (giReg config.prod)) :=
  ⟨file_register config _, file_reads_arrive config _, file_writes_arrive config _⟩

/-- The detection and the lock on that demodulator. -/
def detectedFile : (Int × BitVec 8 × BitVec 8) × RegisterLine (BitVec 8 → BitVec 8) :=
  (lgs8gxxAutoDetect a328Lgs8g75Config clearedStack.toDetectStack 0 gi945).run
    (fileWorld a328Lgs8g75Config) (fileLine lockingFile)

def lockedFile : BitVec 16 × RegisterLine (BitVec 8 → BitVec 8) :=
  (lgs8gxxAutoLock a328Lgs8g75Config clearedStack).run (fileWorld a328Lgs8g75Config)
    (fileLine lockingFile)

theorem curr_gi_agrees_at_once : currGiOf (lockedFile.2.file 0x0C &&& giMask) = lockedFile.1 ∧
    lockedFile.2.file 0x0C &&& ~~~giMask = 0x78 := by
  have hfound : detectedFile = ((0, 0, gi945), detectedFile.2) := Prod.ext (by rfl) rfl
  obtain ⟨hagree, -, hbeside⟩ := curr_gi_agrees_iff (file_gi_register a328Lgs8g75Config) clearedStack
    hfound (Prod.eta lockedFile).symm
  exact ⟨hagree.mpr rfl, hbeside⟩

end Saa7231
