import Saa7231.Driver.Failures

/-!
# The reset of the interrupt controller

`saa7231_msi_init` reads the enable and the status register of each word twice: to clear the word,
and after the reset to check it. It fails exactly if a word has a bit that is both enabled and
pending in the second readings (`msi_reset_checks`).
-/

namespace Saa7231

open Interaction Bus Program

/-- What the two registers of a word were read with in a transcript. -/
def wordReadings {Ext : Type} {ExtAns : Ext → Type} (i : Nat)
    (steps : List (Exchange (BusOp Ext) (BusAns ExtAns))) : List (BitVec 32) × List (BitVec 32) :=
  (readings (Mod.msi + msiIntEna i) steps, readings (Mod.msi + msiIntStatus i) steps)

/-- The second readings of a word have no bit in common. -/
def wordPassed (seen : List (BitVec 32) × List (BitVec 32)) : Bool :=
  match seen.1[1]?, seen.2[1]? with
  | some enable, some status => !resetFailed enable status
  | _, _ => true

/-- The check passed for every word for which it was made. -/
def resetPassed (steps : List DriverStep) : Bool :=
  (List.range saa7231MsiLoops).all fun i => wordPassed (wordReadings i steps)

section Words

variable {Ext : Type} {ExtAns : Ext → Type} {H : Type} {i k : Nat}
  {steps rest : List (Exchange (BusOp Ext) (BusAns ExtAns))}

theorem word_readings_append : wordReadings i (steps ++ rest) =
    ((wordReadings i steps).1 ++ (wordReadings i rest).1,
      (wordReadings i steps).2 ++ (wordReadings i rest).2) := by
  simp only [wordReadings, readings_append]

/-- The registers of a word are read together. -/
theorem word_readings_pair {enable status : BitVec 32} (hi : i < 4) (hk : k < 4) :
    wordReadings k (⟨.rd (Mod.msi + msiIntEna i), enable⟩ ::
        ⟨.rd (Mod.msi + msiIntStatus i), status⟩ :: steps) =
      if i = k then (enable :: (wordReadings k steps).1, status :: (wordReadings k steps).2)
      else wordReadings k steps := by
  have hena : Mod.msi + msiIntEna i = Mod.msi + msiIntEna k ↔ i = k := by
    unfold msiIntEna
    omega
  have hstatus : Mod.msi + msiIntStatus i = Mod.msi + msiIntStatus k ↔ i = k := by
    unfold msiIntStatus
    omega
  have hcross : ¬ Mod.msi + msiIntEna i = Mod.msi + msiIntStatus k := by
    unfold msiIntEna msiIntStatus
    omega
  have hcross' : ¬ Mod.msi + msiIntStatus i = Mod.msi + msiIntEna k := by
    unfold msiIntEna msiIntStatus
    omega
  simp only [wordReadings, readings_rd, hena, hstatus, hcross, hcross', if_false]
  split <;> rfl

/-- The operation reads no enable and no status register. -/
def Unread (op : BusOp Ext) : Prop :=
  ∀ i < 4, op ≠ .rd (Mod.msi + msiIntEna i) ∧ op ≠ .rd (Mod.msi + msiIntStatus i)

theorem word_readings_eq_nil (h : ∀ step ∈ steps, Unread step.1) (hi : i < 4) :
    wordReadings i steps = ([], []) := by
  unfold wordReadings
  rw [readings_eq_nil fun step hstep => (h step hstep i hi).1,
    readings_eq_nil fun step hstep => (h step hstep i hi).2]

theorem traces_word {α : Type} {f : BitVec 32 → BitVec 32 → BusProgram ExtAns α}
    {Q : α → List (Exchange (BusOp Ext) (BusAns ExtAns)) → Prop} :
    (rd (Mod.msi + msiIntEna i) >>= fun enable => rd (Mod.msi + msiIntStatus i) >>= fun status =>
        f enable status).Traces Q ↔
      ∀ enable status, (f enable status).Traces fun value steps => Q value
        (⟨.rd (Mod.msi + msiIntEna i), enable⟩ :: ⟨.rd (Mod.msi + msiIntStatus i), status⟩ ::
          steps) := Iff.rfl

theorem word_readings_skip {before : List (Exchange (BusOp Ext) (BusAns ExtAns))}
    (h : ∀ step ∈ before, Unread step.1) (hi : i < 4) :
    wordReadings i (before ++ steps) = wordReadings i steps := by
  rw [word_readings_append, word_readings_eq_nil h hi]
  rfl

/-- Clearing a word reads its registers once. -/
theorem msi_clear_traces (hi : i < 4) :
    (msiClear i : MsiProgram H Unit).Traces fun _ steps => ∃ enable status, ∀ k < 4,
      wordReadings k steps = if i = k then ([enable], [status]) else ([], []) := by
  have hquiet : ∀ value address, (wrNonzero value address : MsiProgram H Unit).Only Unread := by
    intro value address
    unfold wrNonzero
    split
    next => exact wr_only.mpr fun _ _ => ⟨nofun, nofun⟩
    next => trivial
  refine traces_word.mpr fun enable status => ?_
  refine (Only.traces (Only.bind (hquiet _ _) fun _ => hquiet _ _)).mono fun _ steps hsteps => ?_
  refine ⟨enable, status, fun k hk => ?_⟩
  rw [word_readings_pair hi hk, word_readings_eq_nil hsteps hk]

/-- Clearing the first words reads each once. -/
theorem msi_clear_loop_traces {n : Nat} (hn : n ≤ 4) :
    (Program.loop n (fun i _ => msiClear i) () : MsiProgram H Unit).Traces fun _ steps =>
      (∀ k < n, ∃ enable status, wordReadings k steps = ([enable], [status])) ∧
        ∀ k < 4, n ≤ k → wordReadings k steps = ([], []) := by
  induction n with
  | zero => exact ⟨fun k hk => absurd hk k.not_lt_zero, fun _ _ _ => rfl⟩
  | succ n ih =>
      refine traces_bind.mpr ((ih (by omega)).mono fun _ steps hsteps => ?_)
      refine (msi_clear_traces (by omega)).mono fun _ rest hrest => ?_
      obtain ⟨hcleared, huntouched⟩ := hsteps
      obtain ⟨enable, status, hrest⟩ := hrest
      refine ⟨fun k hk => ?_, fun k hk hle => ?_⟩
      · rw [word_readings_append, hrest k (by omega)]
        by_cases hlast : n = k
        · subst hlast
          rw [if_pos rfl, huntouched n (by omega) le_rfl]
          exact ⟨enable, status, rfl⟩
        · obtain ⟨enable, status, hword⟩ := hcleared k (by omega)
          rw [if_neg hlast, hword]
          exact ⟨enable, status, rfl⟩
      · rw [word_readings_append, hrest k hk, if_neg (by omega), huntouched k hk (by omega)]
        rfl

/-- The check reads every word once, up to the first that fails. -/
theorem msi_check_reset_traces {n i : Nat} (hn : i + n ≤ 4) :
    (msiCheckReset i n : MsiProgram H Bool).Traces fun passed steps =>
      (∀ k < i, wordReadings k steps = ([], [])) ∧
      if passed then ∀ k, i ≤ k → k < i + n → ∃ enable status,
          wordReadings k steps = ([enable], [status]) ∧ resetFailed enable status = false
      else ∃ k, i ≤ k ∧ k < 4 ∧ ∃ enable status,
          wordReadings k steps = ([enable], [status]) ∧ resetFailed enable status = true := by
  induction n generalizing i with
  | zero => exact ⟨fun _ _ => rfl, fun k hle hlt => absurd hlt (by omega)⟩
  | succ n ih =>
      refine traces_word.mpr fun enable status => ?_
      refine traces_ite.mpr ⟨fun hfailed => ⟨fun k hk => ?_, ?_⟩, fun hpassed => ?_⟩
      · rw [word_readings_pair (by omega) (by omega), if_neg (by omega)]
        rfl
      · refine ⟨i, le_rfl, by omega, enable, status, ?_, hfailed⟩
        rw [word_readings_pair (by omega) (by omega), if_pos rfl]
        rfl
      · refine (ih (by omega)).mono fun passed steps hsteps => ?_
        obtain ⟨hbefore, hafter⟩ := hsteps
        have hothers : ∀ k < 4, i ≠ k → wordReadings k (⟨.rd (Mod.msi + msiIntEna i), enable⟩ ::
            ⟨.rd (Mod.msi + msiIntStatus i), status⟩ :: steps) = wordReadings k steps :=
          fun k hk hne => by rw [word_readings_pair (by omega) hk, if_neg hne]
        have hown : wordReadings i (⟨.rd (Mod.msi + msiIntEna i), enable⟩ ::
            ⟨.rd (Mod.msi + msiIntStatus i), status⟩ :: steps) = ([enable], [status]) := by
          rw [word_readings_pair (by omega) (by omega), if_pos rfl, hbefore i (by omega)]
        refine ⟨fun k hk => ?_, ?_⟩
        · rw [hothers k (by omega) (by omega)]
          exact hbefore k (by omega)
        · cases passed with
          | true =>
              intro k hle hlt
              by_cases hfirst : i = k
              · subst hfirst
                exact ⟨enable, status, hown, Bool.eq_false_iff.mpr hpassed⟩
              · rw [hothers k (by omega) hfirst]
                exact hafter k (by omega) (by omega)
          | false =>
              obtain ⟨k, hle, hlt, hword⟩ := hafter
              refine ⟨k, by omega, hlt, ?_⟩
              rw [hothers k hlt (by omega)]
              exact hword

end Words

/-! ## The initialisation of the controller -/

/-- The second readings of a word have a bit in common, or not. -/
def WordChecked {Ext : Type} {ExtAns : Ext → Type} (i : Nat) (verdict : Bool)
    (steps : List (Exchange (BusOp Ext) (BusAns ExtAns))) : Prop :=
  ∃ first second first' second', wordReadings i steps = ([first, second], [first', second']) ∧
    resetFailed second second' = verdict

/-- The result of a check that was made: every word passed, or one did not. -/
def ResetChecked {Ext : Type} {ExtAns : Ext → Type} (ret : Int)
    (steps : List (Exchange (BusOp Ext) (BusAns ExtAns))) : Prop :=
  (ret = 0 ∧ ∀ i < 4, WordChecked i false steps) ∨ (ret < 0 ∧ ∃ i < 4, WordChecked i true steps)

theorem WordChecked.append_left {Ext : Type} {ExtAns : Ext → Type} {i : Nat} {verdict : Bool}
    {before steps : List (Exchange (BusOp Ext) (BusAns ExtAns))} (h : WordChecked i verdict steps)
    (hbefore : ∀ step ∈ before, Unread step.1) (hi : i < 4) :
    WordChecked i verdict (before ++ steps) := by
  unfold WordChecked
  rwa [word_readings_skip hbefore hi]

theorem ResetChecked.append_left {Ext : Type} {ExtAns : Ext → Type} {ret : Int}
    {before steps : List (Exchange (BusOp Ext) (BusAns ExtAns))} (h : ResetChecked ret steps)
    (hbefore : ∀ step ∈ before, Unread step.1) : ResetChecked ret (before ++ steps) := by
  rcases h with ⟨hret, hpassed⟩ | ⟨hret, i, hi, hfailed⟩
  · exact Or.inl ⟨hret, fun i hi => (hpassed i hi).append_left hbefore hi⟩
  · exact Or.inr ⟨hret, i, hi, hfailed.append_left hbefore hi⟩

theorem ResetChecked.cons {Ext : Type} {ExtAns : Ext → Type} {ret : Int}
    {step : Exchange (BusOp Ext) (BusAns ExtAns)}
    {steps : List (Exchange (BusOp Ext) (BusAns ExtAns))} (h : ResetChecked ret steps)
    (hstep : Unread step.1) : ResetChecked ret (step :: steps) := by
  have hbefore : ∀ step' ∈ [step], Unread step'.1 :=
    List.forall_mem_cons.mpr ⟨hstep, fun _ => nofun⟩
  exact h.append_left hbefore

/-- Every word is read when it is cleared and again by the check, which decides on its own
readings. -/
theorem reset_checked_of_cleared {Ext : Type} {ExtAns : Ext → Type}
    {cleared checked : List (Exchange (BusOp Ext) (BusAns ExtAns))} {passed : Bool}
    (hcleared : ∀ k < 4, ∃ enable status, wordReadings k cleared = ([enable], [status]))
    (hchecked : if passed then ∀ k, 0 ≤ k → k < 0 + 4 → ∃ enable status,
        wordReadings k checked = ([enable], [status]) ∧ resetFailed enable status = false
      else ∃ k, 0 ≤ k ∧ k < 4 ∧ ∃ enable status,
        wordReadings k checked = ([enable], [status]) ∧ resetFailed enable status = true) :
    ResetChecked (if passed then 0 else -1) (cleared ++ ⟨.delay 5, ()⟩ :: checked) := by
  have hword : ∀ {i : Nat} {verdict : Bool}, i < 4 → (∃ enable status,
      wordReadings i checked = ([enable], [status]) ∧ resetFailed enable status = verdict) →
      WordChecked i verdict (cleared ++ ⟨.delay 5, ()⟩ :: checked) := by
    rintro i verdict hi ⟨second, second', hsecond, hverdict⟩
    obtain ⟨first, first', hfirst⟩ := hcleared i hi
    refine ⟨first, second, first', second', ?_, hverdict⟩
    have hdelay : wordReadings i (⟨.delay 5, ()⟩ :: checked) = wordReadings i checked := rfl
    rw [word_readings_append, hfirst, hdelay, hsecond]
    rfl
  cases passed with
  | true => exact Or.inl ⟨rfl, fun i hi => hword hi (hchecked i i.zero_le (by omega))⟩
  | false =>
      obtain ⟨i, -, hi, hfailed⟩ := hchecked
      exact Or.inr ⟨by decide, i, hi, hword hi hfailed⟩

namespace Driver

theorem msi_reset_checks (events : Events DvbHandler) :
    (msiReset events).Traces fun result steps => ResetChecked result.1 steps := by
  have hid : ∀ i < 4, (.rd (Mod.msi + msiModuleId) : BusOp (MsiOp DvbHandler)) ≠
      .rd (Mod.msi + msiIntEna i) ∧ (.rd (Mod.msi + msiModuleId) : BusOp (MsiOp DvbHandler)) ≠
      .rd (Mod.msi + msiIntStatus i) := by
    intro i hi
    simp only [ne_eq, BusOp.rd.injEq, msiModuleId, msiIntEna, msiIntStatus]
    omega
  have hconfig : ∀ n, (Program.loop n (fun i _ => wr 0x01000000 (Mod.msi + msiConfig i)) () :
      MsiProgram DvbHandler Unit).Only Unread := fun n =>
    Only.loop (fun _ _ _ => wr_only.mpr fun _ _ => ⟨nofun, nofun⟩) ()
  unfold msiReset
  dsimp only
  generalize saa7231MsiRegs = regs
  rw [traces_wr_bind, traces_delay_bind, traces_rd_bind]
  intro id
  rw [traces_wr_bind, traces_wr_bind, traces_bind]
  refine (Only.traces (hconfig regs)).mono fun _ configured hconfigured => ?_
  rw [traces_bind]
  refine (msi_clear_loop_traces (n := saa7231MsiLoops) le_rfl).mono fun _ cleared hcleared => ?_
  rw [traces_delay_bind]
  refine traces_bind.mpr ((msi_check_reset_traces le_rfl).mono fun passed checked hchecked => ?_)
  -- Before the words are cleared none of their registers is read.
  have hstart : ∀ step ∈ ([⟨.wr 0x01 (Mod.msi + msiSwRst), ()⟩, ⟨.delay 20, ()⟩,
      ⟨.rd (Mod.msi + msiModuleId), id⟩, ⟨.wr 0x00 (Mod.msi + msiDelayTimer), ()⟩,
      ⟨.wr defaultSaa7231IntaPolarity (Mod.msi + msiIntaPolarity), ()⟩] :
      List (Exchange (BusOp (MsiOp DvbHandler)) (BusAns (MsiAns DvbHandler)))),
      Unread step.1 := by
    simp only [List.forall_mem_cons, List.not_mem_nil, false_implies, implies_true, and_true]
    exact ⟨fun _ _ => ⟨nofun, nofun⟩, fun _ _ => ⟨nofun, nofun⟩, hid, fun _ _ => ⟨nofun, nofun⟩,
      fun _ _ => ⟨nofun, nofun⟩⟩
  have hend : ResetChecked (if passed then 0 else -1)
      (configured ++ (cleared ++ ⟨.delay 5, ()⟩ :: checked)) :=
    (reset_checked_of_cleared hcleared.1 hchecked.2).append_left hconfigured
  cases passed with
  | true =>
      simp only [if_true, traces_pure, List.append_nil]
      exact hend.append_left hstart
  | false =>
      simp only [Bool.false_eq_true, if_false, traces_pure, List.append_nil]
      exact hend.append_left hstart

end Driver

end Saa7231
