import Mathlib.Algebra.Group.Nat.Defs
import Saa7231.I2c.Controller

/-!
# The demodulator (`lgs8gxx.c`)

The demodulator is reached through the I2C adapter. A register is written with one message of two
bytes and read with two messages of one byte each; both helpers report a failed transfer, and most
of their callers do not look. `lgs8gxxInit` downloads the firmware of an LGS8G75 and sets up the
transport stream and the input.
-/

namespace Saa7231

open Interaction

/-! ## Configuration and operations -/

def lgs8gxxProdLgs8913 : BitVec 8 := 0
def lgs8gxxProdLgs8g52 : BitVec 8 := 4
def lgs8gxxProdLgs8g75 : BitVec 8 := 6

/-- `struct lgs8gxx_config`. -/
structure Lgs8gxxConfig where
  prod : BitVec 8
  demodAddress : BitVec 8
  serialTs : BitVec 8
  tsClkPol : BitVec 8
  tsClkGated : BitVec 8
  ifClkFreq : BitVec 32
  ifFreq : BitVec 32
  extAdc : BitVec 8
  adcSigned : BitVec 8
  ifNegEdge : BitVec 8
  ifNegCenter : BitVec 8
  adcVpp : BitVec 8

/-- `a328_lgs8g75_config` of `saa7231_drv.c`, the card's demodulator. -/
def a328Lgs8g75Config : Lgs8gxxConfig where
  prod := lgs8gxxProdLgs8g75
  demodAddress := 0x21
  serialTs := 0
  tsClkPol := 1
  tsClkGated := 0
  ifClkFreq := 30400
  ifFreq := 4570
  extAdc := 0
  adcSigned := 1
  ifNegEdge := 0
  ifNegCenter := 0
  adcVpp := 3

/-- What the code does beside its own computation. -/
inductive LgsOp where
  /-- `i2c_transfer`; the answer is its result and the messages with the bytes read. -/
  | i2cTransfer (msgs : List I2cMsg)
  | msleep (milliseconds : Nat)
  | usleepRange (least most : Nat)
  /-- `request_firmware`; the answer is its error or the image. -/
  | requestFirmware
  | releaseFirmware

def LgsAns : LgsOp → Type
  | .i2cTransfer _ => Int × List I2cMsg
  | .requestFirmware => Except Int (List (BitVec 8))
  | _ => Unit

abbrev LgsProgram : Type → Type := Program LgsOp LgsAns

namespace LgsProgram

def i2cTransfer (msgs : List I2cMsg) : LgsProgram (Int × List I2cMsg) :=
  Program.perform (LgsOp.i2cTransfer msgs)
def msleep (milliseconds : Nat) : LgsProgram Unit := Program.perform (LgsOp.msleep milliseconds)
def usleepRange (least most : Nat) : LgsProgram Unit :=
  Program.perform (LgsOp.usleepRange least most)
def requestFirmware : LgsProgram (Except Int (List (BitVec 8))) :=
  Program.perform LgsOp.requestFirmware
def releaseFirmware : LgsProgram Unit := Program.perform LgsOp.releaseFirmware

end LgsProgram

open LgsProgram

/-! ## Registers -/

/-- The message that writes a register. -/
def writeMsg (config : Lgs8gxxConfig) (reg data : BitVec 8) : I2cMsg where
  addr :=
    let addr := config.demodAddress.setWidth 16
    if config.prod ≠ lgs8gxxProdLgs8g75 ∧ 0xC0 ≤ reg then addr + 0x02 else addr
  flags := 0
  buf := [reg, data]

/-- `lgs8gxx_write_reg`. -/
def lgs8gxxWriteReg (config : Lgs8gxxConfig) (reg data : BitVec 8) : LgsProgram Int := do
  let (ret, _) ← i2cTransfer [writeMsg config reg data]
  return if ret ≠ 1 then -1 else 0

/-- The messages that read a register. The device address is an 8-bit value here. -/
def readMsgs (config : Lgs8gxxConfig) (reg : BitVec 8) : List I2cMsg :=
  let devAddr :=
    if config.prod ≠ lgs8gxxProdLgs8g75 ∧ 0xC0 ≤ reg then config.demodAddress + 0x02
    else config.demodAddress
  [⟨devAddr.setWidth 16, 0, [reg]⟩, ⟨devAddr.setWidth 16, i2cMRd, [0]⟩]

/-- The register that a transfer reads or writes: the first byte of its first message. -/
def LgsOp.reg : LgsOp → Option (BitVec 8)
  | .i2cTransfer msgs => msgs.head?.bind (·.buf.head?)
  | _ => none

/-- The byte that the second message of a read brings back. -/
def readByte (msgs : List I2cMsg) : BitVec 8 := (msgs[1]?.bind (·.buf.head?)).getD 0

/-- `lgs8gxx_read_reg`: the result, and `*p_data` after the call. -/
def lgs8gxxReadReg (config : Lgs8gxxConfig) (reg p : BitVec 8) : LgsProgram (Int × BitVec 8) := do
  let (ret, msgs) ← i2cTransfer (readMsgs config reg)
  return if ret ≠ 2 then (-1, p) else (0, readByte msgs)

/-- `lgs8gxx_soft_reset`. -/
def lgs8gxxSoftReset (config : Lgs8gxxConfig) : LgsProgram Int := do
  let _ret ← lgs8gxxWriteReg config 0x02 0x00
  msleep 1
  let _ret ← lgs8gxxWriteReg config 0x02 0x01
  msleep 100
  return 0

/-! ## The firmware -/

/-- The body of the download loop. -/
def writeFirmwareByte (config : Lgs8gxxConfig) (i : Nat) (data : BitVec 8) : LgsProgram Unit := do
  let _ret ← lgs8gxxWriteReg config 0x38 0x00
  let _ret ← lgs8gxxWriteReg config 0x3A (BitVec.ofNat 8 (i &&& 0xff))
  let _ret ← lgs8gxxWriteReg config 0x3B (BitVec.ofNat 8 (i >>> 8))
  let _ret ← lgs8gxxWriteReg config 0x3C data
  usleepRange 200 400

/-- The reset and the download mode, before the image. -/
def enterDownload (config : Lgs8gxxConfig) : LgsProgram Unit := do
  let _ret ← lgs8gxxSoftReset config
  let (_ret, t18) ← lgs8gxxReadReg config 0x18 0xff
  let _ret ← lgs8gxxWriteReg config 0x18 t18
  let _ret ← lgs8gxxWriteReg config 0xC6 0x40
  usleepRange 5000 10000
  let _ret ← lgs8gxxWriteReg config 0x3D 0x04
  let _ret ← lgs8gxxWriteReg config 0x3D 0x04
  let _ret ← lgs8gxxWriteReg config 0x39 0x00
  let _ret ← lgs8gxxWriteReg config 0x3A 0x00
  let _ret ← lgs8gxxWriteReg config 0x38 0x00
  let _ret ← lgs8gxxWriteReg config 0x3B 0x00
  let _ret ← lgs8gxxWriteReg config 0x38 0x00
  return ()

/-- The registers that are read and printed after the image. -/
def fwProbe : List (BitVec 8) :=
  [0x00, 0x12, 0x13, 0x22, 0x23, 0x4D, 0x4E, 0x48, 0x65, 0x09]

/-- The end of the download, and the probe of the running firmware. -/
def leaveDownload (config : Lgs8gxxConfig) : LgsProgram Unit := do
  let _ret ← lgs8gxxWriteReg config 0x38 0x00
  msleep 150
  fwProbe.forM fun reg => do
    let _rr ← lgs8gxxReadReg config reg 0
  msleep 300
  let _rr ← lgs8gxxReadReg config 0x4E 0
  let _rr ← lgs8gxxReadReg config 0x48 0
  return ()

/-- The part of `lgs8g75_init_data` that has an image. -/
def downloadFirmware (config : Lgs8gxxConfig) (fw : List (BitVec 8)) : LgsProgram Unit := do
  enterDownload config
  Program.loop fw.length (fun i _ => writeFirmwareByte config i (fw.getD i 0)) ()
  leaveDownload config

/-- `lgs8g75_init_data`. -/
def lgs8g75InitData (config : Lgs8gxxConfig) : LgsProgram Int := do
  match ← requestFirmware with
  | .error rc => return rc
  | .ok fw =>
      downloadFirmware config fw
      releaseFirmware
      return 0

/-! ## The set-up -/

/-- `lgs8g75_set_adc_vpp`. -/
def lgs8g75SetAdcVpp (config : Lgs8gxxConfig) (sel : BitVec 8) : LgsProgram Int := do
  if config.prod ≠ lgs8gxxProdLgs8g75 then
    return 0
  else
    let _ret ← lgs8gxxWriteReg config 0x26 (0x73 ||| (sel &&& 0x01) <<< 7)
    let _ret ← lgs8gxxWriteReg config 0x27 (0x90 ||| (sel &&& 0x02) >>> 1)
    return 0

/-- The bits for a condition that holds. -/
def bitsIf (c : Prop) [Decidable c] (bits : BitVec 8) : BitVec 8 := if c then bits else 0

/-- The format byte of `lgs8gxx_set_mpeg_mode`. -/
def mpegMode (t serial clkPol clkGated : BitVec 8) : BitVec 8 :=
  (t &&& 0xF8) ||| bitsIf (serial ≠ 0) 0x01 ||| bitsIf (clkPol ≠ 0) 0x02 |||
    bitsIf (clkGated = 0) 0x04

/-- `lgs8gxx_set_mpeg_mode`; `stack` is what its local `t` holds on entry. -/
def lgs8gxxSetMpegMode (config : Lgs8gxxConfig) (stack serial clkPol clkGated : BitVec 8) :
    LgsProgram Int := do
  let regAddr := if config.prod = lgs8gxxProdLgs8g75 then 0x30 else 0xC2
  let (ret, t) ← lgs8gxxReadReg config regAddr stack
  if ret ≠ 0 then
    return ret
  else
    let ret ← lgs8gxxWriteReg config regAddr (mpegMode t serial clkPol clkGated)
    if ret ≠ 0 then
      return ret
    else
      return 0

/-- `lgs8913_init`; `stack` is what its local `t` holds on entry. -/
def lgs8913Init (config : Lgs8gxxConfig) (stack : BitVec 8) : LgsProgram Int := do
  let _ret ← lgs8gxxWriteReg config 0xc1 0x3
  let (_ret, t) ← lgs8gxxReadReg config 0x7c stack
  let _ret ← lgs8gxxWriteReg config 0x7c ((t &&& 0x8c) ||| 0x3)
  let (_ret, t) ← lgs8gxxReadReg config 0xc3 t
  let _ret ← lgs8gxxWriteReg config 0xc3 (t &&& 0x10)
  return 0

/-- The initial frequency of `lgs8gxx_set_if_freq`. -/
def afcInitFreq (freq ifClk : BitVec 32) : BitVec 32 :=
  if freq ≠ 0 then
    let val := freq.toNat * 2 ^ 32
    BitVec.ofNat 32 (if ifClk ≠ 0 then val / ifClk.toNat else val)
  else 0

/-- `lgs8gxx_set_if_freq`. -/
def lgs8gxxSetIfFreq (config : Lgs8gxxConfig) (freq : BitVec 32) : LgsProgram Int := do
  let v32 := afcInitFreq freq config.ifClkFreq
  let first : BitVec 8 := if config.prod = lgs8gxxProdLgs8g75 then 0x08 else 0x09
  let _ret ← lgs8gxxWriteReg config first (v32.setWidth 8)
  let _ret ← lgs8gxxWriteReg config (first + 1) ((v32 >>> 8).setWidth 8)
  let _ret ← lgs8gxxWriteReg config (first + 2) ((v32 >>> 16).setWidth 8)
  let _ret ← lgs8gxxWriteReg config (first + 3) ((v32 >>> 24).setWidth 8)
  return 0

/-- The mode byte of `lgs8gxx_set_ad_mode`. -/
def adMode (config : Lgs8gxxConfig) : BitVec 8 :=
  0x10 ||| (bitsIf (config.extAdc ≠ 0) 0x80 ||| bitsIf (config.ifNegCenter ≠ 0) 0x04 |||
    bitsIf (config.ifFreq = 0) 0x08 ||| bitsIf (config.adcSigned ≠ 0) 0x02 |||
    bitsIf (config.ifNegEdge ≠ 0) 0x01)

/-- `lgs8gxx_set_ad_mode`. -/
def lgs8gxxSetAdMode (config : Lgs8gxxConfig) : LgsProgram Int := do
  if config.extAdc ≠ 0 ∧ config.prod = lgs8gxxProdLgs8g52 then
    let _ret ← lgs8gxxWriteReg config 0xBA 0x40
  let _ret ← lgs8gxxWriteReg config 0x07 (adMode config)
  return 0

/-- `lgs8gxx_init`. The results of all calls but one are dropped. -/
def lgs8gxxInit (config : Lgs8gxxConfig) (stack : BitVec 8) : LgsProgram Int := do
  let _data ← lgs8gxxReadReg config 0 0
  if config.prod = lgs8gxxProdLgs8g75 then
    let _rc ← lgs8g75InitData config
    let _ret ← lgs8g75SetAdcVpp config config.adcVpp
  let err ← lgs8gxxSetMpegMode config stack config.serialTs config.tsClkPol config.tsClkGated
  if err ≠ 0 then
    return -eio
  else
    if config.prod = lgs8gxxProdLgs8913 then
      let _ret ← lgs8913Init config stack
    let _ret ← lgs8gxxSetIfFreq config config.ifFreq
    let _ret ← lgs8gxxSetAdMode config
    return 0

end Saa7231
