import Saa7231.Hardware.AddressMap
import Saa7231.I2c.Controller
import Saa7231.Interaction.Bus

/-!
# The clock generation unit (`saa7231_cgu.c`)

Four PLLs and nineteen clock outputs. `cguInit` programs the PLLs for the root clock of the
board, sets every output to its use case, opens the clock gates of the stream module and resets
the units behind the reset generation unit. `setClk` programs one output and records it in
`clk_status`.
-/

namespace Saa7231

open Interaction Bus

/-! ## Registers (`saa7231_mod.h`, `saa7231_cgu_reg.h`, `saa7231_rgu_reg.h`) -/

def Mod.rgu : Nat := 0x0010e000
def Mod.cgu : Nat := 0x00180000

def cguAdpll550mS : Nat := 0x001C
def cguAdpll550mC : Nat := 0x0020
def cguAdpll550mM : Nat := 0x0024
def cguAdpll550mN : Nat := 0x0028
def cguRefapll550mS : Nat := 0x002C
def cguRefapll550mC : Nat := 0x0030
def cguRefapll550mM : Nat := 0x0034
def cguRefapll550mN : Nat := 0x0038
def cguDsppll160mS : Nat := 0x003C
def cguDsppll160mC : Nat := 0x0040
def cguCdecpll160mS : Nat := 0x0044
def cguCdecpll160mC : Nat := 0x0048
def cguClkPccOut : Nat := 0x0084
def cguClkTest1Out : Nat := 0x0094
def cguClkTest2Out : Nat := 0x0098
def cguClkTestshellOut : Nat := 0x009C
def cguClkBypassOut : Nat := 0x00A0
def cguClkDbg0Out : Nat := 0x00A4
def cguClkDbg1Out : Nat := 0x00A8
def cguClkDbg2Out : Nat := 0x00AC
def cguClkDbg3Out : Nat := 0x00B0
def cguGcr5RwMonitorSbSelect : Nat := 0x0D14

/-- `CLKOUT`. -/
def clkout (module : Nat) : Nat := 0x0058 + module * 4

def rguResetCtrl0 : Nat := 0x0100
def rguResetCtrl1 : Nat := 0x0104
def rguResetActive0 : Nat := 0x0150
def rguResetActive1 : Nat := 0x0154

def streamRaCfThreshold : Nat := 0x0004

/-- The clock gates that `saa7231_cgu_init` opens, in its order. -/
def streamGates : List Nat :=
  [streamRaTs0LocClgate, streamRaTs1LocClgate, streamRaTs0ExtClgate, streamRaTs1ExtClgate,
    streamRaTscaExtClgate, 0x0080, 0x0084, 0x0088, 0x008C, 0x0090, 0x00A8, 0x00AC,
    streamRaTsmuxClgate]

/-! ## PLLs -/

/-- `struct pll160_setup`. -/
structure Pll160Setup where
  m : BitVec 32
  n : BitVec 32
  p : BitVec 32
  direct : BitVec 32

/-- `struct pll550_setup`. -/
structure Pll550Setup where
  m : BitVec 32
  n : BitVec 32
  p : BitVec 32
  selR : BitVec 32
  selI : BitVec 32
  selP : BitVec 32

/-- `enum pll160_frequency`, which indexes the tables. -/
inductive Pll160Frequency where
  | f148MHz
  | f72MHz
  | f200MHz

/-- `enum pll550_frequency`. -/
inductive Pll550Frequency where
  | f96MHz
  | f99MHz
  | f108MHz

def pll160Clk54 : Pll160Frequency → Pll160Setup
  | .f148MHz => ⟨21, 3, 1, 1⟩
  | .f72MHz => ⟨15, 2, 1, 0⟩
  | .f200MHz => ⟨10, 2, 0, 1⟩

def pll160Clk27 : Pll160Frequency → Pll160Setup := fun _ => ⟨0, 0, 0, 0⟩

def pll550Clk54 : Pll550Frequency → Pll550Setup
  | .f96MHz => ⟨10922, 88, 66, 0, 32, 15⟩
  | .f99MHz => ⟨511, 1, 66, 0, 12, 5⟩
  | .f108MHz => ⟨3, 770, 66, 0, 4, 1⟩

def pll550Clk27 : Pll550Frequency → Pll550Setup
  | .f96MHz => ⟨0, 0, 0, 0, 32, 15⟩
  | .f99MHz => ⟨0, 0, 0, 0, 12, 5⟩
  | .f108MHz => ⟨0, 0, 0, 0, 4, 1⟩

/-- `enum pll550_index`. -/
inductive Pll550Index where
  | ad
  | refa
  | pll550

/-- `enum pll160_index`. -/
inductive Pll160Index where
  | dsp
  | cdec
  | pll160

/-! ## The state of the unit -/

/-- `enum clk_frequency`. -/
inductive ClkFrequency where
  | off
  | low
  | usecase
  | no
  deriving DecidableEq

/-- `struct clk_setup`. -/
structure ClkSetup where
  clkIn : BitVec 32
  div : BitVec 32
  preset : BitVec 32

/-- `struct clk_status`: for each output its frequency and its setup. -/
structure ClkStatus where
  freq : Nat → ClkFrequency
  setup : Nat → ClkSetup

/-- `struct clk_in`. -/
structure ClkIn where
  active : BitVec 8
  preset : BitVec 32

/-- `struct port_setup`; `lastCfg` is a value of `enum avis_adcmode`. -/
structure PortSetup where
  active : BitVec 8
  lastCfg : BitVec 32
  index : BitVec 32

/-- `struct saa7231_cgu`. A custom root clock leaves the PLL tables `NULL`. -/
structure Cgu where
  pll160 : Option (Pll160Frequency → Pll160Setup)
  pll550 : Option (Pll550Frequency → Pll550Setup)
  adcIn : Nat → BitVec 32
  clkIn : Nat → ClkIn
  clkStatus : ClkStatus
  clkinSetup : BitVec 32
  clkoutSetup : BitVec 32
  portSetup : Nat → PortSetup

/-- The unit in `kzalloc`ed memory. -/
def Cgu.zero : Cgu where
  pll160 := none
  pll550 := none
  adcIn := fun _ => 0
  clkIn := fun _ => ⟨0, 0⟩
  clkStatus := ⟨fun _ => .off, fun _ => ⟨0, 0, 0⟩⟩
  clkinSetup := 0
  clkoutSetup := 0
  portSetup := fun _ => ⟨0, 0, 0⟩

section Clocks

variable {Ext : Type} {ExtAns : Ext → Type}

/-- The registers `C`, `M` and `N` of a PLL; `none` is the `default` of the switches. -/
def Pll550Index.registers : Pll550Index → Option (Nat × Nat × Nat)
  | .ad => some (cguAdpll550mC, cguAdpll550mM, cguAdpll550mN)
  | .refa => some (cguRefapll550mC, cguRefapll550mM, cguRefapll550mN)
  | .pll550 => none

/-- `saa7231_pll550_setup`; `fault` is the access through a `NULL` table. -/
def pll550Setup (fault : BusProgram ExtAns Unit) (cgu : Cgu) (pllIndex : Pll550Index)
    (enable : Bool) (freq : Pll550Frequency) : BusProgram ExtAns Int := do
  match cgu.pll550 with
  | none =>
      fault
      return -einval
  | some table =>
      let setup := table freq
      let m := setup.selR <<< 28 ||| setup.selI <<< 22 ||| setup.selP <<< 17 ||| setup.m
      let n := setup.n <<< 12 ||| setup.p
      let c := 1#32 <<< 11 ||| 1#32 <<< 4 ||| 1#32 <<< 10 ||| 1#32 <<< 9 ||| 1#32 <<< 8
      match pllIndex.registers with
      | none => return if enable then -einval else 0
      | some (regC, regM, regN) =>
          if enable then
            wr 1 (Mod.cgu + regC)
          wr m (Mod.cgu + regM)
          wr n (Mod.cgu + regN)
          wr (if enable then c else c ||| 1) (Mod.cgu + regC)
          return 0

/-- The register `C` of a PLL; `none` is the `default` of the switches. -/
def Pll160Index.register : Pll160Index → Option Nat
  | .dsp => some cguDsppll160mC
  | .cdec => some cguCdecpll160mC
  | .pll160 => none

/-- `saa7231_pll160_setup`. -/
def pll160Setup (fault : BusProgram ExtAns Unit) (cgu : Cgu) (pllIndex : Pll160Index)
    (enable : Bool) (freq : Pll160Frequency) : BusProgram ExtAns Int := do
  match cgu.pll160 with
  | none =>
      fault
      return -einval
  | some table =>
      let setup := table freq
      let c := 1#32 <<< 11 ||| setup.direct <<< 7 ||| setup.m <<< 16 ||| setup.n <<< 12 |||
        setup.p <<< 8
      match pllIndex.register with
      | none => return -einval
      | some regC =>
          if enable then
            wr (c ||| 1) (Mod.cgu + regC)
          wr (if enable then c else c ||| 1) (Mod.cgu + regC)
          return 0

/-! ## Clock outputs -/

def clkDomainXtalDcsn : Nat := 0
def clkDomainPcc : Nat := 11
def clkDomainTsoutCaextPcc : Nat := 14
def clkDomainExtCa : Nat := 17
def clkDomainClocks : Nat := 19

/-- `clk_out_setup`: source and divider of each output in each of its four presets. -/
def clkOutSetup : List (List (BitVec 32 × BitVec 32)) :=
  [[(0, 1), (0, 1), (0, 0), (0, 0)],
    [(10, 2), (10, 1), (0, 0), (0, 0)],
    [(0, 1), (10, 1), (10, 2), (0, 0)],
    [(15, 8), (0, 4), (0, 0), (0, 0)],
    [(15, 1), (15, 1), (0, 0), (0, 0)],
    [(0, 1), (0, 1), (0, 0), (0, 0)],
    [(0, 1), (0, 1), (0, 0), (0, 0)],
    [(11, 1), (11, 1), (0, 0), (0, 0)],
    [(18, 1), (18, 1), (0, 0), (0, 0)],
    [(0, 8), (0, 8), (0, 0), (0, 0)],
    [(11, 1), (11, 1), (0, 0), (0, 0)],
    [(0, 1), (0, 1), (0, 0), (0, 0)],
    [(0, 1), (0, 1), (0, 0), (0, 0)],
    [(11, 1), (11, 1), (0, 0), (0, 0)],
    [(12, 1), (12, 1), (0, 0), (0, 0)],
    [(0, 1), (0, 1), (0, 0), (0, 0)],
    [(0, 1), (0, 1), (0, 0), (0, 0)],
    [(0, 1), (0, 1), (0, 0), (0, 0)],
    [(0, 8), (0, 8), (0, 0), (0, 0)]]

/-- The source and the divider of an output in a preset. -/
def clkOutPreset (domain preset : Nat) : BitVec 32 × BitVec 32 :=
  (clkOutSetup.getD domain []).getD preset (0, 0)

/-- The divider and the enable bit that `saa7231_set_clk` gives a frequency; `none` is the
invalid frequency. `CLOCK_ENABLE` is `0`. -/
def ClkFrequency.output (frequency : ClkFrequency) (domain : Nat) :
    Option (BitVec 32 × BitVec 32) :=
  match frequency with
  | .off => some (7, 1)
  | .low => some (7, 0)
  | .usecase =>
      let div := (clkOutPreset domain 0).2
      some (if div = 0 then 0 else div - 1, 0)
  | .no => none

/-- The offset of the register of an output: those above 14 lie eight registers higher. -/
def clkoutReg (domain : Nat) : Nat :=
  if domain ≤ clkDomainTsoutCaextPcc then clkout domain else clkout (domain + 8)

/-- Records what an output was set to. -/
def ClkStatus.record (status : ClkStatus) (domain : Nat) (setup : ClkSetup)
    (frequency : ClkFrequency) : ClkStatus where
  freq := fun other => if other = domain then frequency else status.freq other
  setup := fun other => if other = domain then setup else status.setup other

/-- The end of `saa7231_set_clk`: writes the register of the output and records it. -/
def setClkOutput (cgu : Cgu) (domain : Nat) (frequency : ClkFrequency) (src div val : BitVec 32) :
    BusProgram ExtAns (Int × Cgu) := do
  wr val (Mod.cgu + clkoutReg domain)
  return (0, { cgu with clkStatus := cgu.clkStatus.record domain ⟨src, div, 0⟩ frequency })

/-- `saa7231_set_clk`. An output that has the frequency already gets the value `0`. -/
def setClk (cgu : Cgu) (domain : Nat) (frequency : ClkFrequency) :
    BusProgram ExtAns (Int × Cgu) := do
  if frequency = .off ∧ (domain = clkDomainPcc ∨ domain = clkDomainXtalDcsn) then
    return (0, { cgu with clkStatus :=
      { cgu.clkStatus with freq := fun other =>
          if other = domain then frequency else cgu.clkStatus.freq other } })
  if domain = clkDomainPcc then
    return (0, cgu)
  if frequency = cgu.clkStatus.freq domain then
    setClkOutput cgu domain frequency 0 0 0
  else
    match frequency.output domain with
    | none => return (-einval, cgu)
    | some (div, ena) =>
        let src := (clkOutPreset domain 0).1
        setClkOutput cgu domain frequency src div
          (src <<< 24 ||| div <<< 2 ||| 1#32 <<< 11 ||| ena)

/-! ## Initialisation -/

/-- The switch of `saa7231_cgu_init` over the root clock. -/
def Cgu.rooted (rootClk : CguRootclk) : Cgu :=
  match rootClk with
  | .clkRoot27MHz => { Cgu.zero with pll160 := some pll160Clk27, pll550 := some pll550Clk27 }
  | .clkRoot54MHz => { Cgu.zero with pll160 := some pll160Clk54, pll550 := some pll550Clk54 }
  | .clkRootCustom => Cgu.zero

/-- The four PLLs. Their status is read for the log. -/
def cguPlls (fault : BusProgram ExtAns Unit) (verbose : Bool) (cgu : Cgu) :
    BusProgram ExtAns Unit := do
  let _ad ← pll550Setup fault cgu .ad true .f96MHz
  let _refa ← pll550Setup fault cgu .refa true .f108MHz
  let _dsp ← pll160Setup fault cgu .dsp true .f72MHz
  let _cdec ← pll160Setup fault cgu .cdec true .f200MHz
  if verbose then
    let _cdecS ← rd (Mod.cgu + cguCdecpll160mS)
    let _refaS ← rd (Mod.cgu + cguRefapll550mS)
    let _adS ← rd (Mod.cgu + cguAdpll550mS)
    let _dspS ← rd (Mod.cgu + cguDsppll160mS)
    pure ()

/-- The loop of `saa7231_cgu_init` that sets the outputs from `domain` on to their use case. -/
def setClks : Nat → Nat → Cgu → BusProgram ExtAns Cgu
  | _, 0, cgu => pure cgu
  | domain, n + 1, cgu => do
      let (_ret, cgu) ← setClk cgu domain .usecase
      setClks (domain + 1) n cgu

/-- The test outputs, the monitor selection and the clock gates of the stream module. -/
def cguGates : BusProgram ExtAns Unit := do
  let val : BitVec 32 := 7#32 <<< 2 ||| 1
  wr val (Mod.cgu + cguClkTest1Out)
  wr val (Mod.cgu + cguClkTest2Out)
  wr val (Mod.cgu + cguClkTestshellOut)
  wr val (Mod.cgu + cguClkBypassOut)
  wr val (Mod.cgu + cguClkDbg0Out)
  wr val (Mod.cgu + cguClkDbg1Out)
  wr val (Mod.cgu + cguClkDbg2Out)
  wr val (Mod.cgu + cguClkDbg3Out)
  let val ← rd (Mod.cgu + cguGcr5RwMonitorSbSelect)
  wr ((val &&& ~~~0x1F000000) ||| 0x1F000000) (Mod.cgu + cguGcr5RwMonitorSbSelect)
  streamGates.forM fun gate => wr 0x01 (Mod.stream + gate)

/-- The resets of `saa7231_cgu_init`. -/
def cguResets : BusProgram ExtAns Unit := do
  delay 50
  let active0 ← rd (Mod.rgu + rguResetActive0)
  wr (~~~active0 ||| 0x00780268) (Mod.rgu + rguResetCtrl0)
  delay 50
  wr (~~~active0 &&& 0xff87fd97) (Mod.rgu + rguResetCtrl0)
  wr 0x00 (Mod.rgu + rguResetCtrl0)
  let active1 ← rd (Mod.rgu + rguResetActive1)
  wr (~~~active1 ||| 0x0000041A) (Mod.rgu + rguResetCtrl1)
  delay 50
  wr (~~~active1 &&& 0xFFFFFBE5) (Mod.rgu + rguResetCtrl1)
  wr 0x1f (Mod.stream + streamRaCfThreshold)
  let _active0 ← rd (Mod.rgu + rguResetActive0)
  let _active1 ← rd (Mod.rgu + rguResetActive1)

/-- The registers that `saa7231_cgu_init` programs once its memory is allocated. -/
def cguProgram (fault : BusProgram ExtAns Unit) (verbose : Bool) (rootClk : CguRootclk) :
    BusProgram ExtAns Cgu := do
  let cgu := Cgu.rooted rootClk
  cguPlls fault verbose cgu
  let cgu ← setClks 0 clkDomainClocks cgu
  cguGates
  cguResets
  let (_ret, cgu) ← setClk cgu clkDomainExtCa .off
  wr 0x0200080C (Mod.cgu + cguClkPccOut)
  return cgu

/-! ## What the initialisation accesses -/

/-- The registers that `cguProgram` reads. -/
def cguReads : List Nat :=
  [Mod.cgu + cguCdecpll160mS, Mod.cgu + cguRefapll550mS, Mod.cgu + cguAdpll550mS,
    Mod.cgu + cguDsppll160mS, Mod.cgu + cguGcr5RwMonitorSbSelect, Mod.rgu + rguResetActive0,
    Mod.rgu + rguResetActive1]

variable {P : BusOp Ext → Prop} {fault : BusProgram ExtAns Unit}

/-- A PLL is set up by writes, unless there is no table. -/
theorem only_pll550_setup (cgu : Cgu) (hfault : cgu.pll550 = none → fault.Only P)
    (hwr : ∀ value address, P (.wr value address)) (pllIndex : Pll550Index) (enable : Bool) (freq : Pll550Frequency) :
    (pll550Setup fault cgu pllIndex enable freq).Only P := by
  unfold pll550Setup
  cases htable : cgu.pll550 with
  | none => exact Program.Only.bind (hfault htable) fun _ => trivial
  | some table =>
      cases pllIndex <;> cases enable <;>
        simp [Pll550Index.registers, wr_bind_only, wr_only, hwr]

theorem only_pll160_setup (cgu : Cgu) (hfault : cgu.pll160 = none → fault.Only P)
    (hwr : ∀ value address, P (.wr value address)) (pllIndex : Pll160Index) (enable : Bool) (freq : Pll160Frequency) :
    (pll160Setup fault cgu pllIndex enable freq).Only P := by
  unfold pll160Setup
  cases htable : cgu.pll160 with
  | none => exact Program.Only.bind (hfault htable) fun _ => trivial
  | some table =>
      cases pllIndex <;> cases enable <;>
        simp [Pll160Index.register, wr_bind_only, wr_only, hwr]

theorem only_set_clk (hwr : ∀ value address, P (.wr value address)) (cgu : Cgu) (domain : Nat)
    (frequency : ClkFrequency) :
    (setClk cgu domain frequency : BusProgram ExtAns _).Only P := by
  have houtput : ∀ src div val,
      (setClkOutput cgu domain frequency src div val : BusProgram ExtAns _).Only P :=
    fun _ _ val => wr_bind_only.mpr ⟨hwr val _, trivial⟩
  unfold setClk
  simp only [Program.only_ite, Program.only_pure, implies_true, true_and]
  refine fun _ _ => ⟨fun _ => houtput _ _ _, fun _ => ?_⟩
  cases frequency.output domain with
  | none => trivial
  | some output => exact houtput _ _ _

/-- Both tables belong to the root clock, and only a custom one has none. -/
theorem only_cgu_plls {rootClk : CguRootclk} (hfault : rootClk = .clkRootCustom → fault.Only P)
    (hwr : ∀ value address, P (.wr value address)) (hrd : ∀ address ∈ cguReads, P (.rd address))
    (verbose : Bool) : (cguPlls fault verbose (.rooted rootClk)).Only P := by
  have hpll550 : (Cgu.rooted rootClk).pll550 = none → fault.Only P := fun hnone => hfault (by
    cases rootClk <;> first | rfl | cases hnone)
  have hpll160 : (Cgu.rooted rootClk).pll160 = none → fault.Only P := fun hnone => hfault (by
    cases rootClk <;> first | rfl | cases hnone)
  unfold cguPlls
  refine Program.Only.bind (only_pll550_setup _ hpll550 hwr _ _ _) fun _ => ?_
  refine Program.Only.bind (only_pll550_setup _ hpll550 hwr _ _ _) fun _ => ?_
  refine Program.Only.bind (only_pll160_setup _ hpll160 hwr _ _ _) fun _ => ?_
  refine Program.Only.bind (only_pll160_setup _ hpll160 hwr _ _ _) fun _ => ?_
  simp only [Program.only_ite, rd_bind_only, Program.only_pure, implies_true, and_true]
  exact fun _ => ⟨hrd _ (by decide), fun _ => ⟨hrd _ (by decide), fun _ =>
    ⟨hrd _ (by decide), fun _ => hrd _ (by decide)⟩⟩⟩

theorem only_set_clks (hwr : ∀ value address, P (.wr value address)) (n domain : Nat) (cgu : Cgu) :
    (setClks domain n cgu : BusProgram ExtAns Cgu).Only P := by
  induction n generalizing domain cgu with
  | zero => trivial
  | succ n ih => exact Program.Only.bind (only_set_clk hwr cgu domain _) fun _ => ih _ _

theorem only_cgu_gates (hwr : ∀ value address, P (.wr value address))
    (hrd : ∀ address ∈ cguReads, P (.rd address)) :
    (cguGates : BusProgram ExtAns Unit).Only P := by
  have hgates : ∀ gates : List Nat,
      (gates.forM fun gate => wr 0x01 (Mod.stream + gate) : BusProgram ExtAns _).Only P := by
    intro gates
    induction gates with
    | nil => trivial
    | cons gate rest ih => exact wr_bind_only.mpr ⟨hwr _ _, ih⟩
  unfold cguGates
  simp only [wr_bind_only, rd_bind_only, hwr, true_and]
  exact ⟨hrd _ (by decide), fun _ => hgates _⟩

theorem only_cgu_resets (hwr : ∀ value address, P (.wr value address))
    (hdelay : ∀ milliseconds, P (.delay milliseconds))
    (hrd : ∀ address ∈ cguReads, P (.rd address)) :
    (cguResets : BusProgram ExtAns Unit).Only P := by
  unfold cguResets
  simp only [wr_bind_only, rd_bind_only, delay_bind_only, hwr, hdelay, true_and]
  exact ⟨hrd _ (by decide), fun _ => ⟨hrd _ (by decide), fun _ =>
    ⟨hrd _ (by decide), fun _ => ⟨hrd _ (by decide), fun _ => trivial⟩⟩⟩⟩

/-- The initialisation writes registers, waits, and reads a few registers. -/
theorem only_cgu_program {rootClk : CguRootclk} (hfault : rootClk = .clkRootCustom → fault.Only P)
    (hwr : ∀ value address, P (.wr value address)) (hdelay : ∀ milliseconds, P (.delay milliseconds))
    (hrd : ∀ address ∈ cguReads, P (.rd address)) (verbose : Bool) :
    (cguProgram fault verbose rootClk).Only P := by
  unfold cguProgram
  refine Program.Only.bind (only_cgu_plls hfault hwr hrd _) fun _ => ?_
  refine Program.Only.bind (only_set_clks hwr _ _ _) fun _ => ?_
  refine Program.Only.bind (only_cgu_gates hwr hrd) fun _ => ?_
  refine Program.Only.bind (only_cgu_resets hwr hdelay hrd) fun _ => ?_
  refine Program.Only.bind (only_set_clk hwr _ _ _) fun _ => ?_
  exact wr_bind_only.mpr ⟨hwr _ _, trivial⟩

end Clocks

end Saa7231
