import Saa7231.Lgs8gxx.AutoDetect
import Saa7231.Lgs8gxx.Status

/-!
# Numbers in the demodulator's registers

The packet counters and the phase of the frequency correction are words of four registers.
`read_ber_exact` says what the bit error rate is in terms of the counters, and when its 32-bit
arithmetic loses the quotient. `afc_follows_if_freq` says which frequency is printed for the phase
of a frequency that was set.
-/

namespace Saa7231

open Interaction Program

/-! ## Words of bytes -/

/-- The number with these bytes, the most significant first. -/
def bigEndian (bytes : List (BitVec 8)) : Nat := bytes.foldl (fun n byte => n * 256 + byte.toNat) 0

/-- The bytes shifted into a word one after the other. -/
def shiftIn (v : BitVec 32) (bytes : List (BitVec 8)) : BitVec 32 :=
  bytes.foldl (fun v byte => v <<< 8 ||| byte.setWidth 32) v

/-- One byte shifted into a word that has room for it. -/
theorem shift_in_byte {v : BitVec 32} (hroom : v.toNat < 2 ^ 24) (byte : BitVec 8) :
    (v <<< 8 ||| byte.setWidth 32).toNat = v.toNat * 256 + byte.toNat := by
  have hbyte : byte.toNat < 2 ^ 8 := byte.isLt
  have hshift : v.toNat <<< 8 % 2 ^ 32 = v.toNat <<< 8 := by
    rw [Nat.shiftLeft_eq]
    omega
  rw [BitVec.toNat_or, BitVec.toNat_shiftLeft, BitVec.toNat_setWidth, hshift,
    Nat.mod_eq_of_lt (by omega), ← Nat.shiftLeft_add_eq_or_of_lt hbyte, Nat.shiftLeft_eq]

theorem shift_in_toNat {v : BitVec 32} {bytes : List (BitVec 8)}
    (hroom : v.toNat < 256 ^ (4 - bytes.length)) (hlength : bytes.length ≤ 4) :
    (shiftIn v bytes).toNat = bytes.foldl (fun n byte => n * 256 + byte.toNat) v.toNat := by
  induction bytes generalizing v with
  | nil => rfl
  | cons byte rest ih =>
      have hshorter : rest.length < 4 := hlength
      have hpow : 256 ^ (4 - rest.length) = 256 ^ (4 - (byte :: rest).length) * 256 := by
        rw [← Nat.pow_succ]
        congr 1
        rw [List.length_cons]
        omega
      have hword : 256 ^ (4 - (byte :: rest).length) ≤ 2 ^ 24 :=
        Nat.pow_le_pow_right (by omega) (show 4 - (byte :: rest).length ≤ 3 by
          rw [List.length_cons]
          omega)
      have hstep := shift_in_byte (Nat.lt_of_lt_of_le hroom hword) byte
      have hbyte : byte.toNat < 256 := byte.isLt
      show (shiftIn (v <<< 8 ||| byte.setWidth 32) rest).toNat = _
      rw [ih (by rw [hstep, hpow]; omega) (Nat.le_of_lt hshorter), hstep]
      rfl

/-- Four bytes make a word. -/
theorem shift_in_four {bytes : List (BitVec 8)} (hlength : bytes.length = 4) :
    (shiftIn 0 bytes).toNat = bigEndian bytes :=
  shift_in_toNat (by rw [hlength]; decide) (Nat.le_of_eq hlength)

theorem polled_length (t : BitVec 8) (answers : List (Int × List I2cMsg)) :
    (polled t answers).length = answers.length := by
  induction answers generalizing t with
  | nil => rfl
  | cons answer rest ih => exact congrArg Nat.succ (ih _)

/-- The word that `gatherBytes` puts together, and the local after it. -/
theorem gather_bytes_produces {config : Lgs8gxxConfig} {regs : List (BitVec 8)} {t : BitVec 8}
    {v : BitVec 32} {steps : List LgsStep} {result : BitVec 8 × BitVec 32}
    (h : Produces (gatherBytes config regs t v) steps result) :
    ∃ answers, answers.length = regs.length ∧
      steps = List.zipWith (readStep config) regs answers ∧
      result = (answers.foldl readInto t, shiftIn v (polled t answers)) := by
  induction regs generalizing t v steps with
  | nil =>
      obtain ⟨rfl, rfl⟩ := produces_pure.mp h
      exact ⟨[], rfl, rfl, rfl⟩
  | cons reg rest ih =>
      obtain ⟨read, ⟨_, value⟩, later, rfl, hread, hrest⟩ := produces_bind.mp h
      obtain ⟨answer, rfl, rfl⟩ := read_reg_produces hread
      obtain ⟨answers, hlength, rfl, rfl⟩ := ih hrest
      exact ⟨answer :: answers, congrArg Nat.succ hlength, rfl, rfl⟩

/-- A word of four registers. -/
theorem gather_word_produces {config : Lgs8gxxConfig} {regs : List (BitVec 8)} {t : BitVec 8}
    {steps : List LgsStep} {result : BitVec 8 × BitVec 32} (hregs : regs.length = 4)
    (h : Produces (gatherBytes config regs t 0) steps result) :
    ∃ answers, answers.length = 4 ∧ steps = List.zipWith (readStep config) regs answers ∧
      result.1 = answers.foldl readInto t ∧
      result.2.toNat = bigEndian (polled t answers) := by
  obtain ⟨answers, hlength, rfl, rfl⟩ := gather_bytes_produces h
  rw [hregs] at hlength
  exact ⟨answers, hlength, rfl, rfl, shift_in_four ((polled_length t answers).trans hlength)⟩

/-! ## The bit error rate -/

/-- The rate in 32 bits, and when it is the rate. -/
theorem ber_of_toNat (errCnt totalCnt : BitVec 32) :
    (berOf errCnt totalCnt).toNat = errCnt.toNat * 100 % 2 ^ 32 / totalCnt.toNat ∧
      ((berOf errCnt totalCnt).toNat = errCnt.toNat * 100 / totalCnt.toNat ↔
        totalCnt.toNat = 0 ∨ errCnt.toNat * 100 < 2 ^ 32) := by
  have hvalue : (berOf errCnt totalCnt).toNat =
      errCnt.toNat * 100 % 2 ^ 32 / totalCnt.toNat := by
    unfold berOf
    split
    next hzero =>
      rw [hzero]
      exact (Nat.div_zero _).symm
    next => rw [BitVec.toNat_udiv, BitVec.toNat_mul]; rfl
  refine ⟨hvalue, ?_⟩
  rw [hvalue]
  constructor
  · intro hexact
    by_contra hlost
    obtain ⟨hpos, hwraps⟩ := not_or.mp hlost
    have htotal : totalCnt.toNat < 2 ^ 32 := totalCnt.isLt
    have hless : errCnt.toNat * 100 % 2 ^ 32 + totalCnt.toNat ≤ errCnt.toNat * 100 := by omega
    have hquotient := Nat.div_le_div_right (c := totalCnt.toNat) hless
    rw [Nat.add_div_right _ (Nat.pos_of_ne_zero hpos), ← hexact] at hquotient
    exact Nat.not_succ_le_self _ hquotient
  · rintro (hzero | hsmall)
    · rw [hzero, Nat.div_zero, Nat.div_zero]
    · rw [Nat.mod_eq_of_lt hsmall]

/-- The steps read the four registers of the counter at `reg`. -/
def CounterRead (config : Lgs8gxxConfig) (reg : BitVec 8) (answers : List (Int × List I2cMsg))
    (steps : List LgsStep) : Prop :=
  answers.length = 4 ∧
    steps = List.zipWith (readStep config) [reg + 3, reg + 2, reg + 1, reg] answers

/-- Whatever the transfers answer, the bit error rate is made of the two counters as they were read
after the pause, the total of the packets before the erroneous ones: a read that fails repeats the
byte before it. The rate is `100 * errors / total` exactly when the product has 32 bits or no packet
was counted. -/
theorem read_ber_exact (config : Lgs8gxxConfig) (start stop stack : BitVec 8) :
    (lgs8gxxReadBer config start stop stack).Traces fun result steps =>
      ∃ counting total errors T E, steps = counting ++ (total ++ errors) ∧
        ⟨.msleep 200, ()⟩ ∈ counting ∧
        (∃ totals errs, CounterRead config (counterRegs config.prod).1 totals total ∧
          CounterRead config (counterRegs config.prod).2 errs errors ∧
          T = bigEndian (polled stack totals) ∧
          E = bigEndian (polled (totals.foldl readInto stack) errs)) ∧
        result.1 = 0 ∧ result.2.toNat = E * 100 % 2 ^ 32 / T ∧
        (result.2.toNat = E * 100 / T ↔ T = 0 ∨ E * 100 < 2 ^ 32) := by
  refine traces_iff_produces.mpr fun steps result h => ?_
  unfold lgs8gxxReadBer readCounters at h
  generalize counterRegs config.prod = regs at h ⊢
  obtain ⟨regTotal, regErr⟩ := regs
  obtain ⟨starting, ⟨⟩, _, rfl, -, hpause⟩ := produces_bind.mp h
  obtain ⟨pause, ⟨⟩, _, rfl, hpaused, hstop⟩ := produces_bind.mp hpause
  obtain ⟨stopping, ⟨⟩, _, rfl, -, hread⟩ := produces_bind.mp hstop
  obtain ⟨total, ⟨t, totalCnt⟩, _, rfl, htotal, hread⟩ := produces_bind.mp hread
  obtain ⟨errors, ⟨t', errCnt⟩, _, rfl, herrors, hread⟩ := produces_bind.mp hread
  obtain ⟨rfl, rfl⟩ := produces_pure.mp hread
  obtain rfl := produces_perform.mp hpaused
  obtain ⟨totals, htotals, rfl, rfl, hT⟩ := gather_word_produces rfl htotal
  obtain ⟨errs, herrs, rfl, -, hE⟩ := gather_word_produces rfl herrors
  dsimp only at hT hE
  refine ⟨starting ++ ([⟨.msleep 200, ()⟩] ++ stopping), _, _, _, _, ?_, ?_,
    ⟨totals, errs, ⟨htotals, rfl⟩, ⟨herrs, rfl⟩, rfl, rfl⟩, rfl, ?_⟩
  · simp only [List.append_nil, List.append_assoc]
  · exact List.mem_append_right _ List.mem_cons_self
  · rw [← hT, ← hE]
    exact ber_of_toNat errCnt totalCnt

/-! ## The phase of the frequency correction -/

/-- The bytes that the steps write. -/
def bytesWritten (steps : List LgsStep) : List (BitVec 8) :=
  steps.filterMap fun
    | ⟨.i2cTransfer [⟨_, _, [_, data]⟩], _⟩ => some data
    | _ => none

/-- The bytes that the steps read. -/
def bytesRead (steps : List LgsStep) : List (BitVec 8) :=
  steps.filterMap fun
    | ⟨.i2cTransfer _, answer⟩ => if answer.1 = 2 then some (readByte answer.2) else none
    | _ => none

theorem write_reg_produces {config : Lgs8gxxConfig} {reg data : BitVec 8} {steps : List LgsStep}
    {ret : Int} (h : Produces (lgs8gxxWriteReg config reg data) steps ret) :
    bytesWritten steps = [data] := by
  obtain ⟨answer, rest, rfl, hrest⟩ := produces_call.mp h
  obtain ⟨rfl, -⟩ := produces_pure.mp hrest
  rfl

theorem bytes_written_append (first second : List LgsStep) :
    bytesWritten (first ++ second) = bytesWritten first ++ bytesWritten second :=
  List.filterMap_append

/-- Reads that all bring a byte are polls of these bytes. -/
theorem polled_of_bytes_read {config : Lgs8gxxConfig} {regs : List (BitVec 8)} {t : BitVec 8}
    {answers : List (Int × List I2cMsg)} (hlength : answers.length = regs.length)
    (hall : (bytesRead (List.zipWith (readStep config) regs answers)).length = regs.length) :
    polled t answers = bytesRead (List.zipWith (readStep config) regs answers) := by
  induction regs generalizing t answers with
  | nil =>
      rw [List.length_nil, List.length_eq_zero_iff] at hlength
      rw [hlength]
      rfl
  | cons reg rest ih =>
      obtain ⟨answer, answers, rfl⟩ := List.exists_cons_of_length_eq_add_one hlength
      have hlater : (bytesRead (List.zipWith (readStep config) rest answers)).length ≤
          rest.length := by
        have hzip : (List.zipWith (readStep config) rest answers).length ≤ rest.length := by
          rw [List.length_zipWith]
          exact Nat.min_le_left _ _
        exact Nat.le_trans (List.length_filterMap_le _ _) hzip
      by_cases hok : answer.1 = 2
      · have hsteps : bytesRead (List.zipWith (readStep config) (reg :: rest) (answer :: answers)) =
            readByte answer.2 :: bytesRead (List.zipWith (readStep config) rest answers) :=
          List.filterMap_cons_some (if_pos hok)
        rw [hsteps] at hall ⊢
        rw [← ih (t := readInto t answer) (Nat.succ.inj hlength) (Nat.succ.inj hall)]
        exact congrArg (· :: _) (if_neg (not_not_intro hok))
      · have hsteps : bytesRead (List.zipWith (readStep config) (reg :: rest) (answer :: answers)) =
            bytesRead (List.zipWith (readStep config) rest answers) :=
          List.filterMap_cons_none (if_neg hok)
        rw [hsteps, List.length_cons] at hall
        omega

/-- The bytes of the initial frequency, the least significant first. -/
theorem set_if_freq_produces {config : Lgs8gxxConfig} {freq : BitVec 32} {steps : List LgsStep}
    {ret : Int} (h : Produces (lgs8gxxSetIfFreq config freq) steps ret) :
    bytesWritten steps =
      [(afcInitFreq freq config.ifClkFreq).setWidth 8,
        (afcInitFreq freq config.ifClkFreq >>> 8).setWidth 8,
        (afcInitFreq freq config.ifClkFreq >>> 16).setWidth 8,
        (afcInitFreq freq config.ifClkFreq >>> 24).setWidth 8] := by
  obtain ⟨w1, r1, rest, rfl, h1, h⟩ := produces_bind.mp h
  obtain ⟨w2, r2, rest, rfl, h2, h⟩ := produces_bind.mp h
  obtain ⟨w3, r3, rest, rfl, h3, h⟩ := produces_bind.mp h
  obtain ⟨w4, r4, rest, rfl, h4, h⟩ := produces_bind.mp h
  obtain ⟨rfl, -⟩ := produces_pure.mp h
  simp only [bytes_written_append, write_reg_produces h1, write_reg_produces h2,
    write_reg_produces h3, write_reg_produces h4]
  rfl

/-- A word is the number of its bytes. -/
theorem big_endian_word (v : BitVec 32) :
    bigEndian [(v >>> 24).setWidth 8, (v >>> 16).setWidth 8, (v >>> 8).setWidth 8,
      v.setWidth 8] = v.toNat := by
  have hv : v.toNat < 2 ^ 32 := v.isLt
  simp only [bigEndian, List.foldl, BitVec.toNat_setWidth, BitVec.toNat_ushiftRight,
    Nat.shiftRight_eq_div_pow]
  omega

/-- The phase of a frequency is the quotient of a word by the clock: the product with the clock
has the frequency, or one less, in its upper half. -/
theorem phase_quotient {f clk : Nat} (hclk : 0 < clk) (hword : clk < 2 ^ 32) :
    (f * 2 ^ 32 / clk % 2 ^ 32 * clk) / 2 ^ 32 =
      if clk ∣ f * 2 ^ 32 then f % clk else f % clk - 1 := by
  have hphase : f * 2 ^ 32 / clk % 2 ^ 32 = f % clk * 2 ^ 32 / clk := by
    rw [← Nat.mod_mul_right_div_self, Nat.mul_mod_mul_right]
  have hdvd : clk ∣ f * 2 ^ 32 ↔ clk ∣ f % clk * 2 ^ 32 := by
    rw [Nat.dvd_iff_mod_eq_zero, Nat.dvd_iff_mod_eq_zero, Nat.mod_mul_mod]
  rw [hphase]
  simp only [hdvd]
  split
  next hexact => rw [Nat.div_mul_cancel hexact, Nat.mul_div_cancel _ (by omega)]
  next hrest =>
    have hremainder : f % clk * 2 ^ 32 % clk ≠ 0 := mt Nat.dvd_of_mod_eq_zero hrest
    have hless := Nat.mod_lt (f % clk * 2 ^ 32) hclk
    have hsplit := Nat.div_add_mod' (f % clk * 2 ^ 32) clk
    omega

/-- The frequency that is printed for the phase of the initial frequency. -/
theorem afc_khz_init_freq {freq clk : BitVec 32} (hclk : clk ≠ 0) :
    (afcKhz (afcInitFreq freq clk) clk).toNat =
      if clk.toNat ∣ freq.toNat * 2 ^ 32 then freq.toNat % clk.toNat
      else freq.toNat % clk.toNat - 1 := by
  have hword : clk.toNat < 2 ^ 32 := clk.isLt
  have hpos : 0 < clk.toNat := Nat.pos_of_ne_zero fun hzero => hclk (BitVec.eq_of_toNat_eq hzero)
  have hphase : (afcInitFreq freq clk).toNat = freq.toNat * 2 ^ 32 / clk.toNat % 2 ^ 32 := by
    unfold afcInitFreq
    split
    next => exact BitVec.toNat_ofNat _ _
    next hzero =>
      have hnone : freq.toNat = 0 := congrArg BitVec.toNat (not_not.mp hzero)
      rw [hnone, Nat.zero_mul, Nat.zero_div]
      rfl
  have hproduct : (afcInitFreq freq clk).toNat * clk.toNat < 2 ^ 64 :=
    calc (afcInitFreq freq clk).toNat * clk.toNat
        < 2 ^ 32 * clk.toNat := Nat.mul_lt_mul_of_pos_right (BitVec.isLt _) hpos
      _ ≤ 2 ^ 32 * 2 ^ 32 := Nat.mul_le_mul_left _ (Nat.le_of_lt hword)
  have hprinted : (afcKhz (afcInitFreq freq clk) clk).toNat =
      (afcInitFreq freq clk).toNat * clk.toNat / 2 ^ 32 := by
    show (BitVec.ofNat 32 _).toNat = _
    rw [BitVec.toNat_ofNat, Nat.mod_eq_of_lt hproduct]
    exact Nat.mod_eq_of_lt (Nat.div_lt_of_lt_mul hproduct)
  rw [hprinted, hphase]
  exact phase_quotient hpos hword

/-- A demodulator whose phase registers hold the bytes that were written to the registers of the
initial frequency makes the driver print that frequency modulo the clock, and 1 kHz less when the
clock does not divide `freq << 32`. -/
theorem afc_follows_if_freq {config : Lgs8gxxConfig} {freq khz : BitVec 32} {stack : BitVec 8}
    {set get : List LgsStep} {ret ret' : Int} (hclk : config.ifClkFreq ≠ 0)
    (hset : Produces (lgs8gxxSetIfFreq config freq) set ret)
    (hget : Produces (lgs8gxxGetAfcPhase config stack) get (ret', khz))
    (hback : bytesRead get = (bytesWritten set).reverse) :
    khz.toNat =
      if config.ifClkFreq.toNat ∣ freq.toNat * 2 ^ 32 then freq.toNat % config.ifClkFreq.toNat
      else freq.toNat % config.ifClkFreq.toNat - 1 := by
  obtain ⟨gathered, ⟨t, phase⟩, _, rfl, hgather, hpure⟩ := produces_bind.mp hget
  obtain ⟨rfl, hkhz⟩ := produces_pure.mp hpure
  obtain ⟨-, rfl⟩ := Prod.mk.inj hkhz
  obtain ⟨answers, hlength, rfl, -, hphase⟩ := gather_word_produces rfl hgather
  rw [List.append_nil, set_if_freq_produces hset] at hback
  have hwritten : polled stack answers = _ :=
    (polled_of_bytes_read hlength (by rw [hback]; rfl)).trans hback
  have hword : phase = afcInitFreq freq config.ifClkFreq := by
    refine BitVec.eq_of_toNat_eq ?_
    rw [← big_endian_word (afcInitFreq freq config.ifClkFreq)]
    exact hphase.trans (congrArg bigEndian hwritten)
  rw [hword]
  exact afc_khz_init_freq hclk

/-- Phase registers with the phase of 4570 kHz for a clock of 30400 kHz. -/
def phaseFile (reg : BitVec 8) : BitVec 8 :=
  if reg = 0x23 then 0x26 else if reg = 0x22 then 0x7B else if reg = 0x21 then 0xF5 else 0x38

theorem phase_file_khz : ((lgs8gxxGetAfcPhase a328Lgs8g75Config 0).run
    (registerBus phaseFile) ()).1 = (0, 4569) := rfl

/-- The card's demodulator, which is set to 4570 kHz, makes the driver print 4569 kHz. -/
theorem afc_follows_if_freq_a328 : (4569 : BitVec 32).toNat =
    if a328Lgs8g75Config.ifClkFreq.toNat ∣ (4570 : BitVec 32).toNat * 2 ^ 32 then
      (4570 : BitVec 32).toNat % a328Lgs8g75Config.ifClkFreq.toNat
    else (4570 : BitVec 32).toNat % a328Lgs8g75Config.ifClkFreq.toNat - 1 :=
  afc_follows_if_freq (by decide)
    (produces_run (registerBus phaseFile) (lgs8gxxSetIfFreq a328Lgs8g75Config 4570) ())
    (produces_of_run phase_file_khz) rfl

end Saa7231
