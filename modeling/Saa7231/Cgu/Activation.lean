import Saa7231.Cgu.Clocks
import Saa7231.Stream.Ts2dtl

/-!
# Activation of clocks (`saa7231_cgu.c`)

A capture mode and a DMA port stand for a clock port. `activateClocks` checks the port against the
active ones, programs the clocks of its use case and marks it active; `disableClocks` marks it
inactive. `cguSystemSetup` programs the inputs and outputs of a use case that the unit does not
have yet, by what it recorded of them.
-/

namespace Saa7231

open Interaction Bus

/-! ## Tables -/

def saa7231Clocks : Nat := 24
def clkinputClocks : Nat := 17
def clkports : Nat := 10

def cguFdiv0C : Nat := 0x004C
def cguFdiv1C : Nat := 0x0050
def cguFdiv2C : Nat := 0x0054
def cguGcr9RwAnaClockDivSel : Nat := 0x0D24

def clkDomainCtrlPcc : Nat := 12

/-- `input_clktype`: the kind of an input with its index. -/
inductive ClockType where
  | direct
  | pll550 (index : Pll550Index)
  | pll160 (index : Pll160Index)
  | divider (div : Nat)

def inputClktype (clkIn : Nat) : ClockType :=
  match clkIn with
  | 10 => .pll550 .ad
  | 11 => .pll550 .refa
  | 12 => .pll160 .dsp
  | 13 => .pll160 .cdec
  | 14 => .divider 0
  | 15 => .divider 1
  | 16 => .divider 2
  | _ => .direct

/-- The first column of `clkin_presets`, the only one that is read. -/
def clkinPresets : List Nat := [0, 0, 0, 0, 0, 0, 0, 0, 0, 0, 0, 2, 1, 2, 0, 0, 0]

/-- `div_preset`. -/
def divPreset : List (BitVec 32) := [0x0009350c, 0]

/-- The frequencies by their number; the table has no others. -/
def pll550Frequencies : List Pll550Frequency := [.f96MHz, .f99MHz, .f108MHz]
def pll160Frequencies : List Pll160Frequency := [.f148MHz, .f72MHz, .f200MHz]

/-- `adc_sel`, for the versions 0 and 1. -/
def adcSelTable : List (Nat × Nat) :=
  [(1, 1), (1, 1), (2, 2), (2, 2), (1, 1), (1, 1), (1, 1), (4, 4), (4, 4), (4, 4), (4, 4), (1, 1),
    (1, 1), (1, 1), (5, 3), (7, 6), (5, 3), (7, 6), (5, 5), (2, 2), (0, 0), (0, 0), (0, 0), (0, 0)]

/-- The ADC preset of a use case. -/
def adcSel (clock : Nat) (version : Fin 2) : Nat :=
  let presets := adcSelTable.getD clock (0, 0)
  if version = 0 then presets.1 else presets.2

/-- `adc_clksel`; 8 leaves the ADC alone. -/
def adcClksel : List (List (BitVec 32)) :=
  [[8, 2, 8, 8, 2, 8, 0, 0],
    [8, 8, 2, 8, 2, 0, 8, 0],
    [8, 8, 8, 0, 8, 0, 8, 8]]

/-- `clkin_sel`. -/
def clkinSel : List (List Nat) :=
  [[0, 1, 1, 1, 1, 1, 1, 1, 1],
    [0, 0, 0, 0, 0, 0, 0, 0, 0],
    [0, 1, 1, 1, 1, 1, 1, 1, 1],
    [0, 1, 1, 1, 1, 1, 1, 1, 1],
    [0, 0, 0, 0, 0, 0, 0, 0, 0],
    [0, 0, 0, 0, 0, 0, 0, 0, 0],
    [0, 0, 0, 0, 0, 0, 0, 0, 0],
    [0, 0, 0, 0, 1, 0, 0, 0, 0],
    [0, 1, 1, 1, 1, 1, 1, 1, 1],
    [0, 0, 0, 0, 0, 0, 0, 0, 0],
    [0, 0, 0, 1, 0, 0, 1, 1, 1],
    [0, 1, 1, 1, 1, 1, 1, 1, 1],
    [0, 0, 0, 0, 0, 1, 0, 0, 0],
    [0, 0, 0, 1, 0, 0, 1, 1, 1],
    [0, 0, 1, 0, 1, 0, 0, 0, 0],
    [0, 0, 0, 0, 0, 0, 0, 0, 0],
    [0, 0, 0, 0, 0, 0, 0, 0, 0]]

/-- `clk_sel`: the preset of a use case. -/
def clkSel : List Nat :=
  [1, 1, 1, 1, 1, 1, 1, 1, 1, 1, 1, 2, 2, 2, 3, 7, 3, 8, 6, 4, 4, 5, 5, 5]

def clkinPresetMask : List (BitVec 32) :=
  [0x00000, 0x0090D, 0x0490D, 0x0290D, 0x0498D, 0x0190D, 0x02D0D, 0x0290D, 0x0290D]

def clkoutPresetMask : List (BitVec 32) :=
  [0x01000, 0x03041, 0x035C1, 0x0301E, 0x43781, 0x03001, 0x0301F, 0x0301B, 0x0301B]

/-- `clkout_sel`: the number of the preset of an output plus one, or 0. -/
def clkoutSel : List (List Nat) :=
  [[0, 1, 1, 1, 1, 1, 1, 1, 1],
    [0, 0, 0, 0, 0, 0, 0, 1, 1],
    [0, 0, 0, 3, 0, 0, 2, 3, 0],
    [0, 0, 0, 1, 0, 0, 2, 1, 2],
    [0, 0, 0, 1, 0, 0, 1, 1, 1],
    [0, 0, 0, 0, 0, 0, 0, 0, 0],
    [0, 1, 1, 0, 0, 0, 0, 0, 0],
    [0, 0, 1, 0, 1, 0, 0, 0, 0],
    [0, 0, 1, 0, 1, 0, 0, 0, 0],
    [0, 0, 0, 0, 1, 0, 0, 0, 0],
    [0, 0, 1, 0, 1, 0, 0, 0, 0],
    [0, 0, 0, 0, 0, 0, 0, 0, 0],
    [1, 1, 1, 1, 1, 1, 1, 1, 1],
    [0, 1, 1, 1, 1, 1, 1, 1, 1],
    [0, 0, 0, 0, 0, 1, 0, 0, 0],
    [0, 0, 0, 0, 0, 0, 0, 0, 0],
    [0, 0, 0, 0, 0, 0, 0, 0, 0],
    [0, 0, 0, 0, 0, 0, 0, 0, 0],
    [0, 0, 0, 0, 1, 0, 0, 0, 0]]

/-- The entry of a table in a row and a column. -/
def entry (table : List (List Nat)) (row column : Nat) : Nat :=
  (table.getD row []).getD column 0

/-- `adcuse_ex`: whether two ADC presets can be used together. -/
def adcuseEx : List (List Nat) :=
  [[1, 1, 1, 1, 1, 1, 1, 1],
    [1, 0, 1, 1, 0, 1, 0, 0],
    [1, 1, 0, 1, 0, 0, 1, 0],
    [1, 1, 1, 0, 1, 0, 1, 0],
    [1, 0, 0, 1, 0, 0, 0, 0],
    [1, 1, 0, 0, 0, 0, 1, 0],
    [1, 0, 1, 1, 0, 1, 0, 0],
    [1, 0, 0, 0, 0, 0, 0, 0]]

/-! ## Clock ports -/

/-- `enum clkport` without `CLKPORTS`. -/
inductive ClkPort where
  | audio
  | rds
  | video
  | vbi
  | digital0
  | digital1
  | ts0
  | ts1
  | tsin
  | tsout
  deriving DecidableEq

def ClkPort.number : ClkPort → Nat
  | .audio => 0
  | .rds => 1
  | .video => 2
  | .vbi => 3
  | .digital0 => 4
  | .digital1 => 5
  | .ts0 => 6
  | .ts1 => 7
  | .tsin => 8
  | .tsout => 9

/-- `cgu_getclk_instance`: the clock port of a mode and a DMA port. The outer `none` is `-EINVAL`,
the inner one `CLKPORTS`. -/
def cguGetclkInstance (mode : Mode) (dmaport : Nat) : Option (Option ClkPort) :=
  match mode with
  | .audioCapture => if dmaport = streamPortAs2dLocal then some (some .audio) else none
  | .rdsCapture => if dmaport = 0 then some (some .rds) else none
  | .vbiCapture => if dmaport = streamPortDs2dAvis then some (some .vbi) else none
  | .videoCapture => if dmaport = streamPortVs2dAvis then some (some .video) else none
  | .digitalCapture =>
      if dmaport = streamPortTs2dDtv0 then some (some .digital0)
      else if dmaport = streamPortTs2dDtv1 then some (some .digital1)
      else if dmaport = streamPortTs2dExtern0 then some (some .ts0)
      else if dmaport = streamPortTs2dExtern1 then some (some .ts1)
      else if dmaport = streamPortTs2dCam then some (some .tsin)
      else none
  | .digitalRender => if dmaport = streamPortTsoifPc then some (some .tsout) else none
  | .remoteControl => if dmaport = 0 then some none else none
  | .modeNone | .encoderCapture => none

/-- The ports that a port is checked against: the digital ports against the other one and the analog
ports, the analog ports against the digital ones. -/
def ClkPort.conflictMask : ClkPort → BitVec 32
  | .audio | .rds | .video | .vbi => 0x10 ||| 0x20
  | .digital0 => 0x01 ||| 0x02 ||| 0x04 ||| 0x08 ||| 0x20
  | .digital1 => 0x01 ||| 0x02 ||| 0x04 ||| 0x08 ||| 0x10
  | .ts0 | .ts1 | .tsin | .tsout => 0

namespace Cgu

/-- Changes what is recorded of a port. -/
def updatePort (cgu : Cgu) (port : ClkPort) (change : PortSetup → PortSetup) : Cgu :=
  { cgu with portSetup := fun i =>
      if i = port.number then change (cgu.portSetup i) else cgu.portSetup i }

/-- The condition under which the loop of `cgu_clkupdate_instance` stops at port `i`. -/
def stopsAt (cgu : Cgu) (version : Fin 2) (mask : BitVec 32) (clkSel i : Nat) : Bool :=
  mask.getLsbD i && (cgu.portSetup i).active == 1 &&
    entry adcuseEx clkSel (adcSel (cgu.portSetup i).index.toNat version) == 0

end Cgu

/-- `cgu_clkupdate_instance`. -/
def cguClkupdateInstance (cgu : Cgu) (version : Fin 2) (port : ClkPort) (index : BitVec 32) : Int :=
  if saa7231Clocks ≤ index.toNat then -einval
  else
    -- The loop stops at a conflict, but the result is the same whether it does or not.
    let _stop := (List.range clkports).find?
      (cgu.stopsAt version port.conflictMask (adcSel index.toNat version))
    0

section Activation

variable {Ext : Type} {ExtAns : Ext → Type}

/-! ## Inputs and outputs -/

/-- `saa7231_divider_setup`. -/
def dividerSetup (div : Nat) (val : BitVec 32) : BusProgram ExtAns Int := do
  match div with
  | 0 => wr val (Mod.cgu + cguFdiv0C)
  | 1 => wr val (Mod.cgu + cguFdiv1C)
  | 2 => wr val (Mod.cgu + cguFdiv2C)
  | _ => return -einval
  return 0

/-- Programs an input with a preset. -/
def setupInput (fault : BusProgram ExtAns Unit) (cgu : Cgu) (clkIn preset : Nat) :
    BusProgram ExtAns Unit := do
  match inputClktype clkIn with
  | .pll160 index =>
      let _ret ← pll160Setup fault cgu index true (pll160Frequencies.getD preset .f148MHz)
  | .pll550 index =>
      let _ret ← pll550Setup fault cgu index true (pll550Frequencies.getD preset .f96MHz)
  | .divider div =>
      let _ret ← dividerSetup div (divPreset.getD preset 0)
  | .direct => pure ()

/-- The first loop of `cgu_system_setup` from input `clkIn` on. -/
def setupInputs (fault : BusProgram ExtAns Unit) (preset : Nat) :
    Nat → Nat → Cgu → BusProgram ExtAns Cgu
  | _, 0, cgu => pure cgu
  | clkIn, n + 1, cgu => do
      if entry clkinSel clkIn preset ≠ 0 ∧ (cgu.clkIn clkIn).active ≠ 0 then
        let clkinPreset := clkinPresets.getD clkIn 0
        setupInput fault cgu clkIn clkinPreset
        setupInputs fault preset (clkIn + 1) n
          { cgu with clkIn := fun other =>
              if other = clkIn then ⟨1, BitVec.ofNat 32 clkinPreset⟩ else cgu.clkIn other }
      else
        setupInputs fault preset (clkIn + 1) n cgu

/-- An iteration of the second loop of `cgu_system_setup`. The register of the outputs above 14 is
not moved up here as in `saa7231_set_clk`. -/
def setupOutput (preset domain : Nat) (cgu : Cgu) : BusProgram ExtAns Cgu := do
  if domain = clkDomainPcc ∨ domain = clkDomainCtrlPcc ∨ domain = clkDomainXtalDcsn then
    return cgu
  let presetSel := entry clkoutSel domain preset
  if presetSel = 0 then
    return cgu
  let (clkSrc, divOut) := clkOutPreset domain (presetSel - 1)
  let setup := cgu.clkStatus.setup domain
  if divOut - 1 ≠ setup.div ∨ clkSrc ≠ setup.clkIn ∨
      BitVec.ofNat 32 (presetSel - 1) ≠ setup.preset then
    let divOut := if divOut = 0 then 0 else divOut - 1
    wr (clkSrc <<< 24 ||| divOut <<< 2 ||| 1#32 <<< 11) (Mod.cgu + clkout domain)
    return { cgu with
      clkStatus := cgu.clkStatus.record domain
        ⟨clkSrc, divOut, BitVec.ofNat 32 (presetSel - 1)⟩ .usecase
      clkoutSetup := cgu.clkoutSetup ||| clkoutPresetMask.getD preset 0 }
  return cgu

/-- The second loop of `cgu_system_setup` from output `domain` on. -/
def setupOutputs (preset : Nat) : Nat → Nat → Cgu → BusProgram ExtAns Cgu
  | _, 0, cgu => pure cgu
  | domain, n + 1, cgu => do
      let cgu ← setupOutput preset domain cgu
      setupOutputs preset (domain + 1) n cgu

/-- `cgu_system_setup`. -/
def cguSystemSetup (fault : BusProgram ExtAns Unit) (cgu : Cgu) (clockindex : Nat) :
    BusProgram ExtAns (Int × Cgu) := do
  let preset := clkSel.getD clockindex 0
  let mask := clkinPresetMask.getD preset 0
  let cgu ←
    if mask ≠ cgu.clkinSetup &&& mask then do
      let cgu ← setupInputs fault preset 0 clkinputClocks cgu
      pure { cgu with clkinSetup := cgu.clkinSetup ||| mask }
    else
      pure cgu
  let cgu ← setupOutputs preset 0 clkDomainClocks cgu
  return (0, { cgu with clkoutSetup := cgu.clkoutSetup ||| clkoutPresetMask.getD preset 0 })

/-! ## ADC clocks -/

/-- `saa7231_adc_setup`: two bits of a register for each of the three ADCs. -/
def adcSetup (cgu : Cgu) (adc : Nat) (clk : BitVec 32) (force : Bool) :
    BusProgram ExtAns (Int × Cgu) := do
  if !force ∧ cgu.adcIn adc = clk then
    return (0, cgu)
  let reg ← rd (Mod.cgu + cguGcr9RwAnaClockDivSel)
  if 3 ≤ adc then
    return (-einval, cgu)
  wr ((reg &&& ~~~(3#32 <<< (2 * adc))) ||| clk <<< (2 * adc)) (Mod.cgu + cguGcr9RwAnaClockDivSel)
  return (0, { cgu with adcIn := fun other => if other = adc then clk else cgu.adcIn other })

/-- The ADC clock of a preset; 8 leaves it alone. -/
def adcApply (cgu : Cgu) (adc clkSel : Nat) : BusProgram ExtAns Cgu := do
  let clk := (adcClksel.getD adc []).getD clkSel 0
  if clk = 8 then
    return cgu
  let (_ret, cgu) ← adcSetup cgu adc clk false
  return cgu

/-- `saa7231_adc_clksetup`. -/
def adcClksetup (fault : BusProgram ExtAns Unit) (version : Fin 2) (cgu : Cgu) (clock : Nat) :
    BusProgram ExtAns (Int × Cgu) := do
  if saa7231Clocks ≤ clock then
    fault
    return (-einval, cgu)
  let clkSel := adcSel clock version
  let cgu ← adcApply cgu 0 clkSel
  let cgu ← adcApply cgu 1 clkSel
  let cgu ← adcApply cgu 2 clkSel
  return (0, cgu)

/-- `cgu_update_clk`. -/
def cguUpdateClk (fault : BusProgram ExtAns Unit) (version : Fin 2) (cgu : Cgu) (clockindex : Nat) :
    BusProgram ExtAns (Int × Cgu) := do
  let (ret, cgu) ← cguSystemSetup fault cgu clockindex
  if ret < 0 then
    fault
    return (ret, cgu)
  let (ret, cgu) ← adcClksetup fault version cgu clockindex
  if ret < 0 then
    fault
    return (ret, cgu)
  return (0, cgu)

/-! ## Activation -/

def adcinDvbtdif3 : BitVec 32 := 0x00004000
def adcinDvbtdif1 : BitVec 32 := 0x00008000
def adcinDvbtlowif3 : BitVec 32 := 0x00010000
def adcinDvbtlowif1 : BitVec 32 := 0x00020000

/-- The other path of an ADC mode; `none` where there is no alternative. -/
def altPath (lastCfg : BitVec 32) : Option (BitVec 32) :=
  if lastCfg = adcinDvbtlowif1 then some adcinDvbtlowif3
  else if lastCfg = adcinDvbtlowif3 then some adcinDvbtlowif1
  else if lastCfg = adcinDvbtdif1 then some adcinDvbtdif3
  else if lastCfg = adcinDvbtdif3 then some adcinDvbtdif1
  else none

/-- The check of `saa7231_activate_clocks`: the error of a port without a compatible path, or the
unit with the path that was found. -/
def cguChoosePath (fault : BusProgram ExtAns Unit) (version : Fin 2) (cgu : Cgu) (port : ClkPort) :
    BusProgram ExtAns (Int × Cgu) := do
  let setup := cgu.portSetup port.number
  let ret := cguClkupdateInstance cgu version port setup.index
  if ret = 0 then
    return (0, cgu)
  match altPath setup.lastCfg with
  | none => return (ret, cgu)
  | some path =>
      let index := BitVec.ofNat 32 (Nat.log2 path.toNat)
      let ret := cguClkupdateInstance cgu version port index
      if ret < 0 then
        fault
      if ret ≠ 0 then
        return (ret, cgu)
      return (0, cgu.updatePort port fun setup => { setup with lastCfg := path, index := index })

/-- `saa7231_activate_clocks`. -/
def Cgu.activateClocks (cgu : Cgu) (fault : BusProgram ExtAns Unit) (version : Fin 2) (mode : Mode)
    (port : Nat) : BusProgram ExtAns (Int × Cgu) := do
  match cguGetclkInstance mode port with
  | none =>
      fault
      return (-einval, cgu)
  | some none => return (0, cgu)
  | some (some clkport) =>
      if (cgu.portSetup clkport.number).active = 1 then
        return (0, cgu)
      let (ret, cgu) ← cguChoosePath fault version cgu clkport
      if ret ≠ 0 then
        return (ret, cgu)
      let (ret, cgu) ← cguUpdateClk fault version cgu (cgu.portSetup clkport.number).index.toNat
      if ret < 0 then
        fault
      if ret ≠ 0 then
        return (ret, cgu)
      return (0, cgu.updatePort clkport fun setup => { setup with active := 1 })

/-- The output that `saa7231_disable_clocks` switches off with a port: the one that the two ports of
the CAM share, when the other is inactive. -/
def clkOff (cgu : Cgu) (port : ClkPort) : Option Nat :=
  match port with
  | .tsin =>
      if (cgu.portSetup ClkPort.tsout.number).active = 0 then some clkDomainTsoutCaextPcc else none
  | .tsout =>
      if (cgu.portSetup ClkPort.tsin.number).active = 0 then some clkDomainTsoutCaextPcc else none
  | _ => none

/-- `saa7231_disable_clocks`. Its last loop sets a variable that is not read. -/
def Cgu.disableClocks (cgu : Cgu) (mode : Mode) (port : Nat) : BusProgram ExtAns (Int × Cgu) := do
  match cguGetclkInstance mode port with
  | none | some none => return (-einval, cgu)
  | some (some clkport) =>
      let cgu := cgu.updatePort clkport fun setup => { setup with active := 0 }
      match clkOff cgu clkport with
      | none => return (0, cgu)
      | some clkOut =>
          let (_ret, cgu) ← setClk cgu clkOut .off
          return (0, cgu)

end Activation

end Saa7231
