import Saa7231.Lgs8gxx.RegisterDevice

/-!
# The signal strength of an LGS8913

The demodulator has a memory of samples behind three registers: two hold an address of ten bits, and
the third reads as the sample there. `lgs8913_read_signal_strength` looks for the largest sample of
a guard interval, and writes the upper half of the address once in 256 samples only.
`strength_over_bus` says what it finds, through the words of the I2C master.
-/

namespace Saa7231

open Interaction Program

/-- The address registers, the samples, and the other registers. -/
structure SamplePort where
  high : BitVec 8
  low : BitVec 8
  samples : BitVec 16 → BitVec 8
  others : BitVec 8 → BitVec 8

/-- A register is written. -/
def SamplePort.write (port : SamplePort) (reg data : BitVec 8) : SamplePort :=
  if reg = 0x84 then { port with high := data }
  else if reg = 0x83 then { port with low := data }
  else { port with others := Function.update port.others reg data }

/-- A register is read. -/
def SamplePort.read (port : SamplePort) (reg : BitVec 8) : BitVec 8 :=
  if reg = 0x94 then port.samples (port.high ++ port.low) else port.others reg

/-- A device with these registers, at the addresses of the demodulator. -/
def sampleDevice (config : Lgs8gxxConfig) : RegisterDevice SamplePort where
  answers := demodAnswers config
  write reg data port := port.write reg data
  read reg port := port.read reg

/-- The world of the demodulator with that device, and without firmware. -/
def sampleWorld (config : Lgs8gxxConfig) : World LgsOp LgsAns (RegisterLine SamplePort) :=
  targetWorld (sampleDevice config).target (.error (-2))

/-- The strength is that of the largest of the first samples, and 0 without any. -/
def IsStrongest (samples : BitVec 16 → BitVec 8) (n : Nat) (strength : BitVec 16) : Prop :=
  (∀ i < n, (samples (BitVec.ofNat 16 i)).toNat ≤ strength.toNat) ∧
    (strength = 0 ∨ ∃ i < n, strength = (samples (BitVec.ofNat 16 i)).setWidth 16)

variable {config : Lgs8gxxConfig}

/-! ## The registers of the device -/

theorem sample_device_serves (config : Lgs8gxxConfig) : (sampleDevice config).Serves config :=
  serves_of_answers rfl

theorem sample_write_run (reg data : BitVec 8) (line : RegisterLine SamplePort) :
    (lgs8gxxWriteReg config reg data).run (sampleWorld config) line =
      (0, ⟨false, some reg, line.file.write reg data⟩) := by
  show (0, ((sampleDevice config).target.transfer [writeMsg config reg data] line).2) = _
  rw [write_transfer (sample_device_serves config)]
  rfl

theorem sample_read_run (reg p : BitVec 8) (line : RegisterLine SamplePort) :
    (lgs8gxxReadReg config reg p).run (sampleWorld config) line =
      ((0, line.file.read reg), ⟨false, some reg, line.file⟩) := by
  obtain ⟨hline, hbyte⟩ := read_transfer (sample_device_serves config) reg line
  show ((0, readByte ((sampleDevice config).target.transfer (readMsgs config reg) line).1),
    ((sampleDevice config).target.transfer (readMsgs config reg) line).2) = _
  rw [hline, hbyte]
  rfl

/-- The two halves of the address of a sample. -/
theorem sample_address (i : Nat) :
    ((0x03 : BitVec 8) &&& BitVec.ofNat 8 (i >>> 8)) ++ BitVec.ofNat 8 (i &&& 0xFF) =
      BitVec.ofNat 16 (i % 1024) := by
  apply BitVec.eq_of_toNat_eq
  have hlow : i &&& 0xFF = i % 256 := Nat.and_two_pow_sub_one_eq_mod i 8
  have hhigh : i >>> 8 = i / 256 := Nat.shiftRight_eq_div_pow i 8
  have hpage (n : Nat) : 0x03 &&& n = n % 4 := by
    rw [Nat.and_comm]
    exact Nat.and_two_pow_sub_one_eq_mod n 2
  rw [BitVec.toNat_append, BitVec.toNat_and, hlow, hhigh, BitVec.toNat_ofNat, BitVec.toNat_ofNat,
    BitVec.toNat_ofNat, ← Nat.shiftLeft_add_eq_or_of_lt (Nat.mod_lt _ (by omega)),
    Nat.shiftLeft_eq, show (0x03 : BitVec 8).toNat = 0x03 from rfl, hpage]
  omega

/-! ## The loop -/

/-- The samples of the rounds so far, whose number is taken modulo the size of the memory. -/
def RoundsStrongest (samples : BitVec 16 → BitVec 8) (n : Nat) (strength : BitVec 16) : Prop :=
  (∀ i < n, (samples (BitVec.ofNat 16 (i % 1024))).toNat ≤ strength.toNat) ∧
    (strength = 0 ∨ ∃ i < n, strength = (samples (BitVec.ofNat 16 (i % 1024))).setWidth 16)

/-- One more sample. -/
theorem RoundsStrongest.next {samples : BitVec 16 → BitVec 8} {n : Nat} {strength : BitVec 16}
    (h : RoundsStrongest samples n strength) {str : BitVec 8}
    (hstr : str = samples (BitVec.ofNat 16 (n % 1024))) :
    RoundsStrongest samples (n + 1)
      (if strength < str.setWidth 16 then str.setWidth 16 else strength) := by
  have hwide : (str.setWidth 16).toNat = str.toNat := by
    rw [BitVec.toNat_setWidth]
    omega
  obtain ⟨hbound, hattained⟩ := h
  split
  next hlarger =>
    rw [BitVec.lt_def, hwide] at hlarger
    refine ⟨fun i hi => ?_, Or.inr ⟨n, n.lt_succ_self, by rw [hstr]⟩⟩
    rw [hwide]
    obtain hbefore | rfl := Nat.lt_succ_iff_lt_or_eq.mp hi
    · have := hbound i hbefore
      omega
    · exact Nat.le_of_eq (congrArg BitVec.toNat hstr.symm)
  next hnot =>
    rw [BitVec.lt_def, hwide] at hnot
    refine ⟨fun i hi => ?_, hattained.imp_right fun ⟨i, hi, heq⟩ => ⟨i, by omega, heq⟩⟩
    obtain hbefore | rfl := Nat.lt_succ_iff_lt_or_eq.mp hi
    · exact hbound i hbefore
    · rw [← hstr]
      omega

/-- From 1024 rounds on the memory has been seen as a whole. -/
theorem RoundsStrongest.samples {samples : BitVec 16 → BitVec 8} {n : Nat} {strength : BitVec 16}
    (h : RoundsStrongest samples n strength) : IsStrongest samples (min n 1024) strength := by
  obtain ⟨hbound, hattained⟩ := h
  refine ⟨fun i hi => ?_, hattained.imp_right fun ⟨i, hi, heq⟩ => ⟨i % 1024, ?_, heq⟩⟩
  · have hround := hbound i (by omega)
    rwa [Nat.mod_eq_of_lt (by omega)] at hround
  · have := Nat.mod_lt i (show 0 < 1024 by omega)
    have := Nat.mod_le i 1024
    omega

/-- Before a round the upper half of the address is that of the round before, if there was one. -/
structure Sampling (samples : BitVec 16 → BitVec 8) (i : Nat) (vars : BitVec 8 × BitVec 16)
    (line : RegisterLine SamplePort) : Prop where
  page : 0 < i → line.file.high = (0x03 : BitVec 8) &&& BitVec.ofNat 8 ((i - 1) >>> 8)
  same : line.file.samples = samples
  strongest : RoundsStrongest samples i vars.2

/-- The upper half of the address after the write of every 256th round. -/
theorem sample_page {samples : BitVec 16 → BitVec 8} {i : Nat} {vars : BitVec 8 × BitVec 16}
    {line : RegisterLine SamplePort} (h : Sampling samples i vars line)
    {paged : Unit × RegisterLine SamplePort}
    (hrun : (writeWhen config (i &&& 0xFF = 0) 0x84
      ((0x03 : BitVec 8) &&& BitVec.ofNat 8 (i >>> 8))).run (sampleWorld config) line = paged) :
    paged.2.file.high = (0x03 : BitVec 8) &&& BitVec.ofNat 8 (i >>> 8) ∧
      paged.2.file.samples = samples := by
  subst hrun
  unfold writeWhen
  rw [run_ite]
  split
  next =>
    rw [run_bind, sample_write_run]
    exact ⟨rfl, h.same⟩
  next hround =>
    have hlow : i &&& 0xFF = i % 256 := Nat.and_two_pow_sub_one_eq_mod i 8
    rw [hlow] at hround
    have hsame : (i - 1) >>> 8 = i >>> 8 := by
      rw [Nat.shiftRight_eq_div_pow, Nat.shiftRight_eq_div_pow]
      omega
    refine ⟨?_, h.same⟩
    rw [← hsame]
    exact h.page (by omega)

theorem sample_round {samples : BitVec 16 → BitVec 8} {i : Nat} {vars : BitVec 8 × BitVec 16}
    {line : RegisterLine SamplePort} (h : Sampling samples i vars line) :
    Sampling samples (i + 1) ((sampleStrength config i vars).run (sampleWorld config) line).1
      ((sampleStrength config i vars).run (sampleWorld config) line).2 := by
  rcases hpaged : (writeWhen config (i &&& 0xFF = 0) 0x84
    ((0x03 : BitVec 8) &&& BitVec.ofNat 8 (i >>> 8))).run (sampleWorld config) line with ⟨⟨⟩, paged⟩
  obtain ⟨hhigh, hsame⟩ := sample_page h hpaged
  dsimp only at hhigh hsame
  have hbyte : (paged.file.write 0x83 (BitVec.ofNat 8 (i &&& 0xFF))).read 0x94 =
      samples (BitVec.ofNat 16 (i % 1024)) := by
    rw [← sample_address, ← hhigh, ← hsame]
    rfl
  have hmask : ((3 : Nat) : BitVec 8) = 0x03 := rfl
  unfold sampleStrength
  dsimp only
  rw [hmask, run_bind, hpaged, run_bind, sample_write_run, run_bind, sample_read_run]
  exact ⟨fun _ => hhigh, hsame, h.strongest.next hbyte⟩

/-- What the function finds on the device. -/
theorem sample_device_run (hprod : config.prod = lgs8gxxProdLgs8913) (currGi : BitVec 16)
    (t str : BitVec 8) (signal : BitVec 16) (line : RegisterLine SamplePort)
    {result : (Int × BitVec 16) × RegisterLine SamplePort}
    (hrun : (lgs8gxxReadSignalStrength config false currGi t str signal).run (sampleWorld config)
      line = result) :
    result.1.1 = 0 ∧ IsStrongest line.file.samples (min currGi.toNat 1024) result.1.2 ∧
      result.2.file.samples = line.file.samples := by
  subst hrun
  have hloop : Sampling line.file.samples currGi.toNat
      ((loop currGi.toNat (sampleStrength config) (str, 0)).run (sampleWorld config)
        ⟨false, some 0x4B, line.file⟩).1
      ((loop currGi.toNat (sampleStrength config) (str, 0)).run (sampleWorld config)
        ⟨false, some 0x4B, line.file⟩).2 := by
    refine run_loop (I := Sampling line.file.samples) ⟨?_, rfl, ?_, ?_⟩ fun i _ _ _ => sample_round
    · exact fun h => absurd h (Nat.lt_irrefl 0)
    · exact fun i hi => absurd hi (Nat.not_lt_zero i)
    · exact Or.inl rfl
  unfold lgs8gxxReadSignalStrength lgs8913ReadSignalStrength
  rw [if_pos hprod, run_bind, sample_read_run]
  dsimp only
  rw [if_neg (not_not.mpr rfl), if_neg Bool.false_ne_true, run_bind, run_bind, sample_read_run]
  exact ⟨rfl, hloop.strongest.samples, hloop.same⟩

/-! ## Over the bus -/

/-- The signal strength of an LGS8913 through the I2C master, on a controller without delays and
with `fake_signal_str` set to 0 (its default is 1, and then no sample is read): the function returns
0 and the largest of the samples of the guard interval, at most of the 1024 that the address
reaches. The samples stay as they are. -/
theorem strength_over_bus (i2c : I2c) (hprod : config.prod = lgs8gxxProdLgs8913)
    (hseven : config.demodAddress < 0x7E) (currGi : BitVec 16) (t str : BitVec 8)
    (signal : BitVec 16) (port : SamplePort) {ret : Int} {strength : BitVec 16}
    {line : Line (RegisterLine SamplePort)}
    (hrun : ((lgs8gxxReadSignalStrength config false currGi t str signal).implement
      (overBus i2c (.error (-2)))).run (promptWorld i2c (sampleDevice config).target)
        (.fresh ⟨false, none, port⟩) = ((ret, strength), line)) :
    ret = 0 ∧ IsStrongest port.samples (min currGi.toNat 1024) strength ∧
      line.device.file.samples = port.samples := by
  have hcarried : (lgs8gxxReadSignalStrength config false currGi t str signal).Only Carried :=
    (read_signal_strength_reaches false currGi t str signal).mono
      fun _ haccess => haccess.carried hseven
  have hrests : (Line.fresh (RegisterLine.mk false none port)).Rests ⟨false, none, port⟩ :=
    ⟨rfl, rfl, rfl⟩
  obtain ⟨hvalue, hlast⟩ := program_on_prompt hcarried hrests
  rw [hrun] at hvalue hlast
  obtain ⟨hret, hstrongest, hsame⟩ := sample_device_run hprod currGi t str signal
    ⟨false, none, port⟩ rfl
  refine ⟨(congrArg Prod.fst hvalue).trans hret, ?_, ?_⟩
  · rw [show strength = _ from congrArg Prod.snd hvalue]
    exact hstrongest
  · rw [hlast.device]
    exact hsame

/-- A demodulator like the card's, of the older kind. -/
def lgs8913Config : Lgs8gxxConfig := { a328Lgs8g75Config with prod := lgs8gxxProdLgs8913 }

/-- Samples that count up and start again every 256. -/
def countingPort : SamplePort := ⟨0, 0, fun address => address.setWidth 8, fun _ => 0⟩

/-- The strength over a guard interval of 420. -/
def countingRun : (Int × BitVec 16) × Line (RegisterLine SamplePort) :=
  ((lgs8gxxReadSignalStrength lgs8913Config false 420 0 0 0).implement
    (overBus I2c.plain (.error (-2)))).run
      (promptWorld I2c.plain (sampleDevice lgs8913Config).target)
      (.fresh ⟨false, none, countingPort⟩)

theorem strength_over_bus_counting : countingRun.1.1 = 0 ∧ countingRun.1.2 = 255 := by
  have hrun : countingRun = ((countingRun.1.1, countingRun.1.2), countingRun.2) := by
    rw [Prod.eta countingRun.1, Prod.eta countingRun]
  obtain ⟨hret, ⟨hbound, hattained⟩, -⟩ := strength_over_bus I2c.plain rfl (by decide) 420 0 0 0
    countingPort hrun
  refine ⟨hret, BitVec.eq_of_toNat_eq ?_⟩
  have hleast : 255 ≤ countingRun.1.2.toNat := hbound 255 (by decide)
  obtain hzero | ⟨i, -, heq⟩ := hattained
  · rw [hzero] at hleast
    exact absurd hleast (by decide)
  · have hmost := (countingPort.samples (BitVec.ofNat 16 i)).isLt
    rw [heq, BitVec.toNat_setWidth] at hleast ⊢
    rw [show (255 : BitVec 16).toNat = 255 from rfl]
    omega

end Saa7231
