import Saa7231.Interaction.Relabel
import Saa7231.Interaction.Search
import Saa7231.Lgs8gxx.Init

/-!
# Locking to a channel (`lgs8gxx.c`)

The demodulator detects the parameters of a signal by itself, once it is given a guard interval and
a carrier mode. `lgs8gxxAutoDetect` tries them one after the other, and `lgs8gxxAutoLock` writes
back what was detected and leaves the automatic mode. An uninitialised local holds what the stack
held before: such locals of a function are arguments of its model.
-/

namespace Saa7231

open Interaction LgsProgram

/-! ## Constants -/

def lgs8gxxProdLgs8gl5 : BitVec 8 := 1
def lgs8gxxProdLgs8g42 : BitVec 8 := 3
def lgs8gxxProdLgs8g54 : BitVec 8 := 5

def scMask : BitVec 8 := 0x1C
def lgsFecMask : BitVec 8 := 0x03
def timMask : BitVec 8 := 0x20
def timMiddle : BitVec 8 := 0x00
def cfMask : BitVec 8 := 0x80
def giMask : BitVec 8 := 0x03
def gi420 : BitVec 8 := 0x00
def gi595 : BitVec 8 := 0x01
def gi945 : BitVec 8 := 0x02

/-! ## The automatic and the manual mode -/

/-- The products whose mode is in the registers `0x7E` and `0xC5`. -/
def hasAutoRegs (prod : BitVec 8) : Prop :=
  prod = lgs8gxxProdLgs8913 ∨ prod = lgs8gxxProdLgs8gl5 ∨ prod = lgs8gxxProdLgs8g42 ∨
    prod = lgs8gxxProdLgs8g52 ∨ prod = lgs8gxxProdLgs8g54

instance (prod : BitVec 8) : Decidable (hasAutoRegs prod) :=
  inferInstanceAs (Decidable (_ ∨ _))

/-- A write that some products need only. -/
def writeWhen (config : Lgs8gxxConfig) (c : Prop) [Decidable c] (reg data : BitVec 8) :
    LgsProgram Unit := do
  if c then
    let _ret ← lgs8gxxWriteReg config reg data
    return ()
  else
    return ()

/-- The switch to automatic detection, by product: the local `t` after it. -/
def startDetection (config : Lgs8gxxConfig) (t : BitVec 8) : LgsProgram (BitVec 8) := do
  if config.prod = lgs8gxxProdLgs8g75 then
    let (_ret, t) ← lgs8gxxReadReg config 0x0C t
    let t := t &&& ~~~0x04
    let _ret ← lgs8gxxWriteReg config 0x0C (t ||| 0x80)
    let _ret ← lgs8gxxWriteReg config 0x39 0x00
    let _ret ← lgs8gxxWriteReg config 0x3D 0x04
    return t
  else if hasAutoRegs config.prod then
    let (_ret, t) ← lgs8gxxReadReg config 0x7E t
    let _ret ← lgs8gxxWriteReg config 0x7E (t ||| 0x01)
    let (_ret, t) ← lgs8gxxReadReg config 0xC5 t
    let _ret ← lgs8gxxWriteReg config 0xC5 (t &&& 0xE0)
    return t
  else
    return t

/-- What an LGS8913 needs besides: FEC detection and the BER test mode. -/
def detectFec (config : Lgs8gxxConfig) (t : BitVec 8) : LgsProgram Unit := do
  if config.prod = lgs8gxxProdLgs8913 then
    let _ret ← lgs8gxxWriteReg config 0xC1 0x03
    let (_ret, t) ← lgs8gxxReadReg config 0x7C t
    let t := (t &&& 0x8C) ||| 0x03
    let _ret ← lgs8gxxWriteReg config 0x7C t
    let (_ret, t) ← lgs8gxxReadReg config 0xC3 t
    let _ret ← lgs8gxxWriteReg config 0xC3 ((t &&& 0xEF) ||| 0x10)
    return ()
  else
    return ()

/-- `lgs8gxx_set_mode_auto`; `stack` is what its local `t` holds on entry. -/
def lgs8gxxSetModeAuto (config : Lgs8gxxConfig) (stack : BitVec 8) : LgsProgram Int := do
  writeWhen config (config.prod = lgs8gxxProdLgs8913) 0xC6 0x01
  let t ← startDetection config stack
  detectFec config t
  writeWhen config (config.prod = lgs8gxxProdLgs8g52) 0xD9 0x40
  return 0

/-- The end of the manual mode of an LGS8G75, from `0x0C` and `0x19` as they were read. -/
def manualPath (config : Lgs8gxxConfig) (t t2 : BitVec 8) : LgsProgram Unit := do
  if t &&& 0x03 = 0x01 ∧ t2 &&& 0x01 ≠ 0 then
    let _ret ← lgs8gxxWriteReg config 0x6E 0x05
    let _ret ← lgs8gxxWriteReg config 0x39 0x02
    let _ret ← lgs8gxxWriteReg config 0x39 0x03
    let _ret ← lgs8gxxWriteReg config 0x3D 0x05
    let _ret ← lgs8gxxWriteReg config 0x3E 0x28
    let _ret ← lgs8gxxWriteReg config 0x53 0x80
    return ()
  else
    let _ret ← lgs8gxxWriteReg config 0x6E 0x3F
    let _ret ← lgs8gxxWriteReg config 0x39 0x00
    let _ret ← lgs8gxxWriteReg config 0x3D 0x04
    return ()

/-- `lgs8gxx_set_mode_manual`; `stack` and `stack2` are what its locals `t` and `t2` hold on
entry. -/
def lgs8gxxSetModeManual (config : Lgs8gxxConfig) (stack stack2 : BitVec 8) : LgsProgram Int := do
  if config.prod = lgs8gxxProdLgs8g75 then
    let (_ret, t) ← lgs8gxxReadReg config 0x0C stack
    let t := t &&& ~~~0x80
    let _ret ← lgs8gxxWriteReg config 0x0C t
    let (_ret, t) ← lgs8gxxReadReg config 0x0C t
    let (_ret, t2) ← lgs8gxxReadReg config 0x19 stack2
    manualPath config t t2
    let _ret ← lgs8gxxSoftReset config
    return 0
  else
    let _ret ← lgs8gxxWriteReg config 0x7E 0
    writeWhen config (config.prod = lgs8gxxProdLgs8913) 0xC1 0
    let (_ret, t) ← lgs8gxxReadReg config 0xC5 stack
    let _ret ← lgs8gxxWriteReg config 0xC5 ((t &&& 0xE0) ||| 0x06)
    let _ret ← lgs8gxxSoftReset config
    return 0

/-! ## Waiting -/

/-- The loop of `wait_reg_mask` with `tries` tries left, where `t` is what its local holds. -/
def waitRegMask (config : Lgs8gxxConfig) (reg mask val : BitVec 8) (delay : Nat) :
    Nat → BitVec 8 → LgsProgram Int
  | 0, _ => pure 1
  | tries + 1, t => do
      let (_ret, t) ← lgs8gxxReadReg config reg t
      if t &&& mask = val then
        return 0
      else
        msleep delay
        waitRegMask config reg mask val delay tries t

/-- A field of a status register and the value to wait for. -/
structure StatusField where
  reg : BitVec 8
  mask : BitVec 8
  val : BitVec 8

/-- Where `lgs8gxx_wait_ca_lock` looks. -/
def caLock (prod : BitVec 8) : StatusField :=
  if prod = lgs8gxxProdLgs8g75 then ⟨0x13, 0x80, 0x80⟩ else ⟨0x4B, 0xC0, 0xC0⟩

/-- Where `lgs8gxx_is_autodetect_finished` looks. -/
def detectionEnd (prod : BitVec 8) : StatusField :=
  if prod = lgs8gxxProdLgs8g75 then ⟨0x1f, 0xC0, 0x80⟩ else ⟨0xA4, 0x03, 0x01⟩

/-- `lgs8gxx_wait_ca_lock`: the result, and `*locked`. -/
def lgs8gxxWaitCaLock (config : Lgs8gxxConfig) (stack : BitVec 8) :
    LgsProgram (Int × BitVec 8) := do
  let field := caLock config.prod
  let ret ← waitRegMask config field.reg field.mask field.val 50 40 stack
  return (0, if ret = 0 then 1 else 0)

/-- `lgs8gxx_is_autodetect_finished`: the result, and `*finished`. -/
def lgs8gxxIsAutodetectFinished (config : Lgs8gxxConfig) (stack : BitVec 8) :
    LgsProgram (Int × BitVec 8) := do
  let field := detectionEnd config.prod
  let ret ← waitRegMask config field.reg field.mask field.val 10 20 stack
  return (0, if ret = 0 then 1 else 0)

/-! ## Detection -/

/-- What the uninitialised locals of one call of `lgs8gxx_autolock_gi`, and of the two calls of
`wait_reg_mask` under it, hold on entry. -/
structure TryStack where
  t1 : BitVec 8
  t2 : BitVec 8
  caLock : BitVec 8
  detectionEnd : BitVec 8

/-- The guard interval and the carrier mode as `lgs8gxx_autolock_gi` sets them. -/
def selectGi (config : Lgs8gxxConfig) (stack : TryStack) (gi cpn : BitVec 8) :
    LgsProgram Unit := do
  if config.prod = lgs8gxxProdLgs8g75 then
    let (_ret, t1) ← lgs8gxxReadReg config 0x0C stack.t1
    let (_ret, t2) ← lgs8gxxReadReg config 0x18 stack.t2
    let t1 := (t1 &&& ~~~giMask) ||| gi
    let t2 := (t2 &&& 0xFE) ||| bitsIf (cpn ≠ 0) 0x01
    let _ret ← lgs8gxxWriteReg config 0x0C t1
    let _ret ← lgs8gxxWriteReg config 0x18 t2
    return ()
  else
    let _ret ← lgs8gxxWriteReg config 0x04 gi
    return ()

/-- The reset and the waits of `lgs8gxx_autolock_gi`. -/
def awaitLock (config : Lgs8gxxConfig) (stack : TryStack) : LgsProgram (Int × BitVec 8) := do
  let _ret ← lgs8gxxSoftReset config
  let (err, locked) ← lgs8gxxWaitCaLock config stack.caLock
  if err ≠ 0 ∨ locked = 0 then
    return (err, locked)
  else
    let (err, finished) ← lgs8gxxIsAutodetectFinished config stack.detectionEnd
    if err ≠ 0 then
      return (err, locked)
    else
      return (0, if finished ≠ 0 then locked else 0)

/-- `lgs8gxx_autolock_gi`: the result, and `*locked`. -/
def lgs8gxxAutolockGi (config : Lgs8gxxConfig) (stack : TryStack) (gi cpn : BitVec 8) :
    LgsProgram (Int × BitVec 8) := do
  selectGi config stack gi cpn
  awaitLock config stack

/-- What ends the loops of `lgs8gxx_auto_detect`: `err`, `locked` and `tmp_gi` there. -/
structure DetectExit where
  err : Int
  locked : BitVec 8
  tmpGi : BitVec 8

/-- One call of `lgs8gxx_autolock_gi` in `lgs8gxx_auto_detect`: an error or a lock leaves the
loops. -/
def tryGi (config : Lgs8gxxConfig) (stack : TryStack) (gi cpn : BitVec 8) :
    LgsProgram (Option DetectExit) := do
  let (err, locked) ← lgs8gxxAutolockGi config stack gi cpn
  return if err ≠ 0 ∨ locked ≠ 0 then some ⟨err, locked, gi⟩ else none

/-- The body of the outer loop of `lgs8gxx_auto_detect`; `stack` numbers the tries. -/
def tryRound (config : Lgs8gxxConfig) (stack : Nat → TryStack) (i : Nat) :
    LgsProgram (Option DetectExit) :=
  Program.orElse
    (Program.search (fun j => tryGi config (stack (5 * i + j)) gi945 (BitVec.ofNat 8 j)) [0, 1])
    (Program.orElse
      (Program.search
        (fun j => tryGi config (stack (5 * i + 2 + j)) gi420 (BitVec.ofNat 8 j)) [0, 1])
      (tryGi config (stack (5 * i + 4)) gi595 1))

/-- What the uninitialised locals under `lgs8gxx_auto_detect` hold on entry. -/
structure DetectStack where
  modeAuto : BitVec 8
  tries : Nat → TryStack
  param : BitVec 8

/-- The registers that `lgs8gxx_auto_detect` sets before its loops. -/
def prepareDetection (config : Lgs8gxxConfig) (stack : BitVec 8) : LgsProgram Unit := do
  let _ret ← lgs8gxxSetModeAuto config stack
  if config.prod = lgs8gxxProdLgs8g75 then
    let _ret ← lgs8gxxWriteReg config 0x67 0xAA
    let _ret ← lgs8gxxWriteReg config 0x6E 0x3F
    return ()
  else
    let _ret ← lgs8gxxWriteReg config 0x03 0x00
    return ()

/-- The parameters that an LGS8GXX reports after a lock. -/
def readParam (config : Lgs8gxxConfig) (stack : BitVec 8) : LgsProgram (BitVec 8) := do
  if config.prod ≠ lgs8gxxProdLgs8g75 then
    let (_ret, t) ← lgs8gxxReadReg config 0xA2 stack
    return t
  else
    let (_ret, t) ← lgs8gxxReadReg config 0x1F stack
    return t &&& 0x3F

/-- The end of `lgs8gxx_auto_detect`: an error skips it, and loops that ran out end without a lock
and with the last guard interval. The values are the result, `*detected_param` and `*gi`. -/
def finishDetection (config : Lgs8gxxConfig) (stack param gi : BitVec 8) (found : DetectExit) :
    LgsProgram (Int × BitVec 8 × BitVec 8) := do
  if found.err ≠ 0 then
    return (found.err, param, gi)
  else if found.locked = 1 then
    let param ← readParam config stack
    return (0, param, found.tmpGi)
  else
    return (if found.locked = 0 then -1 else 0, param, gi)

/-- `lgs8gxx_auto_detect`: the result, `*detected_param` and `*gi`. -/
def lgs8gxxAutoDetect (config : Lgs8gxxConfig) (stack : DetectStack) (param gi : BitVec 8) :
    LgsProgram (Int × BitVec 8 × BitVec 8) := do
  prepareDetection config stack.modeAuto
  let found ← Program.search (tryRound config stack.tries) [0, 1]
  finishDetection config stack.param param gi (found.getD ⟨0, 0, gi595⟩)

/-! ## Locking -/

/-- The parameters that `lgs8gxx_auto_lock` applies: the interleaver bit of an LGS8913 is
replaced. -/
def appliedParam (prod param : BitVec 8) : BitVec 8 :=
  if prod = lgs8gxxProdLgs8913 then
    (param &&& (cfMask ||| scMask ||| lgsFecMask)) |||
      (if param &&& timMask = timMiddle then 0x60 else 0x40)
  else param

/-- Writes the parameters back; `stack` is what the local `t` of `lgs8gxx_auto_lock` holds on
entry. -/
def applyParam (config : Lgs8gxxConfig) (stack param : BitVec 8) : LgsProgram Unit := do
  if config.prod = lgs8gxxProdLgs8g75 then
    let (_ret, t) ← lgs8gxxReadReg config 0x19 stack
    let _ret ← lgs8gxxWriteReg config 0x19 ((t &&& 0x81) ||| param <<< 1)
    return ()
  else
    let _ret ← lgs8gxxWriteReg config 0x7D param
    writeWhen config (config.prod = lgs8gxxProdLgs8913) 0xC0 param

/-- The `switch` that ends `lgs8gxx_auto_lock`. -/
def currGiOf (gi : BitVec 8) : BitVec 16 :=
  if gi = gi945 then 945 else if gi = gi595 then 595 else if gi = gi420 then 420 else 945

/-- What the uninitialised locals under `lgs8gxx_auto_lock` hold on entry. -/
structure LockStack extends DetectStack where
  apply : BitVec 8
  manual : BitVec 8
  manual2 : BitVec 8

/-- `lgs8gxx_auto_lock`: `curr_gi` after it. -/
def lgs8gxxAutoLock (config : Lgs8gxxConfig) (stack : LockStack) : LgsProgram (BitVec 16) := do
  let (_err, param, gi) ← lgs8gxxAutoDetect config stack.toDetectStack 0 gi945
  applyParam config stack.apply (appliedParam config.prod param)
  let _ret ← lgs8gxxSoftReset config
  let _ret ← lgs8gxxSetModeManual config stack.manual stack.manual2
  return currGiOf gi

/-! ## Tuning -/

/-- `lgs8gxx_i2c_gate_ctrl`; `tunerAddress` is `tuner_address` of the configuration. -/
def lgs8gxxI2cGateCtrl (config : Lgs8gxxConfig) (tunerAddress : BitVec 8) (enable : Bool) :
    LgsProgram Int := do
  if tunerAddress = 0 then
    return 0
  else if enable then
    lgs8gxxWriteReg config 0x01 (0x80 ||| tunerAddress)
  else
    lgs8gxxWriteReg config 0x01 0

/-- `enum fe_delivery_system`, as far as the driver names it. -/
inductive FeDeliverySystem where
  | sysDtmb
  | sysDvbt
  | other (system : Nat)
  deriving DecidableEq

/-- `enum fe_code_rate`. -/
inductive FeCodeRate where
  | fecAuto
  | other (rate : Nat)

/-- `enum fe_modulation`. -/
inductive FeModulation where
  | qamAuto
  | other (modulation : Nat)

/-- `enum fe_transmit_mode`. -/
inductive FeTransmitMode where
  | transmissionModeAuto
  | other (mode : Nat)

/-- `enum fe_guard_interval`. -/
inductive FeGuardInterval where
  | guardIntervalAuto
  | other (interval : Nat)

/-- `enum fe_hierarchy`. -/
inductive FeHierarchy where
  | hierarchyNone
  | other (hierarchy : Nat)

/-- `struct dtv_frontend_properties`, as far as the driver reads and writes it. -/
structure DtvFrontendProperties where
  deliverySystem : FeDeliverySystem
  bandwidthHz : BitVec 32
  codeRateHP : FeCodeRate
  codeRateLP : FeCodeRate
  modulation : FeModulation
  transmissionMode : FeTransmitMode
  guardInterval : FeGuardInterval
  hierarchy : FeHierarchy

/-- A DTMB channel of 8 MHz. -/
def dtmbParams : DtvFrontendProperties where
  deliverySystem := .sysDtmb
  bandwidthHz := 8000000
  codeRateHP := .fecAuto
  codeRateLP := .fecAuto
  modulation := .qamAuto
  transmissionMode := .transmissionModeAuto
  guardInterval := .guardIntervalAuto
  hierarchy := .hierarchyNone

/-- The operations of a frontend: those of the demodulator, and those of a tuner. -/
abbrev FeProgram {Ext : Type} (ExtAns : Ext → Type) : Type → Type :=
  Program (LgsOp ⊕ Ext) (Sum.elim LgsAns ExtAns)

/-- A program of the demodulator in the frontend. -/
def demod {Ext : Type} {ExtAns : Ext → Type} {α : Type} (program : LgsProgram α) :
    FeProgram ExtAns α :=
  program.relabel Sum.inl fun _ reply => reply

section SetFe

variable {Ext : Type} {ExtAns : Ext → Type}

/-- The parameters that `lgs8gxx_set_fe` reports, whatever was detected. -/
def DtvFrontendProperties.reported (params : DtvFrontendProperties) : DtvFrontendProperties :=
  { params with
    bandwidthHz := 8000000
    codeRateHP := .fecAuto
    codeRateLP := .fecAuto
    modulation := .qamAuto
    transmissionMode := .transmissionModeAuto
    guardInterval := .guardIntervalAuto
    hierarchy := .hierarchyNone }

/-- The tuner's `set_params`, and the gate closed after it. -/
def tuneTuner (config : Lgs8gxxConfig) (tunerAddress : BitVec 8)
    (setParams : Option (DtvFrontendProperties → FeProgram ExtAns (Int × DtvFrontendProperties)))
    (params : DtvFrontendProperties) : FeProgram ExtAns DtvFrontendProperties :=
  match setParams with
  | none => pure params
  | some setParams => do
      let (_ret, params) ← setParams params
      let _ret ← demod (lgs8gxxI2cGateCtrl config tunerAddress false)
      return params

/-- `lgs8gxx_set_fe`: the result, `curr_gi` and the parameters after it. `setParams` is the
tuner's `set_params`. -/
def lgs8gxxSetFe (config : Lgs8gxxConfig) (tunerAddress : BitVec 8) (stack : LockStack)
    (setParams : Option (DtvFrontendProperties → FeProgram ExtAns (Int × DtvFrontendProperties)))
    (params : DtvFrontendProperties) :
    FeProgram ExtAns (Int × BitVec 16 × DtvFrontendProperties) := do
  let params ← tuneTuner config tunerAddress setParams params
  let currGi ← demod (lgs8gxxAutoLock config stack)
  demod (msleep 10)
  return (0, currGi, params.reported)

end SetFe

end Saa7231
