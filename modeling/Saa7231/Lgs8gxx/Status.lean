import Saa7231.Lgs8gxx.Tune

/-!
# What the demodulator reports (`lgs8gxx.c`)

The frontend operations that read the demodulator: lock status, signal strength, signal to noise
ratio, bit error rate. The packet counters behind the bit error rate are started and stopped by the
driver; on an LGS8G75 they share register `0x30` with the transport stream format.
-/

namespace Saa7231

open Interaction LgsProgram

/-! ## Words in registers -/

/-- Reads registers, the most significant byte first, into `v`, through the local `t`. -/
def gatherBytes (config : Lgs8gxxConfig) :
    List (BitVec 8) → BitVec 8 → BitVec 32 → LgsProgram (BitVec 8 × BitVec 32)
  | [], t, v => pure (t, v)
  | reg :: rest, t, v => do
      let (_ret, t) ← lgs8gxxReadReg config reg t
      gatherBytes config rest t (v <<< 8 ||| t.setWidth 32)

/-- The frequency in kHz that `lgs8gxx_get_afc_phase` prints for a phase. -/
def afcKhz (phase ifClk : BitVec 32) : BitVec 32 :=
  BitVec.ofNat 32 (phase.toNat * ifClk.toNat % 2 ^ 64 / 2 ^ 32)

/-- `lgs8gxx_get_afc_phase`: the result, and the frequency that it prints. -/
def lgs8gxxGetAfcPhase (config : Lgs8gxxConfig) (stack : BitVec 8) :
    LgsProgram (Int × BitVec 32) := do
  let regAddr : BitVec 8 := if config.prod = lgs8gxxProdLgs8g75 then 0x23 else 0x48
  let (_t, v32) ← gatherBytes config [regAddr, regAddr - 1, regAddr - 2, regAddr - 3] stack 0
  return (0, afcKhz v32 config.ifClkFreq)

/-! ## Lock status -/

/-- `lgs8gxx_is_locked`: the result, and `*locked`. -/
def lgs8gxxIsLocked (config : Lgs8gxxConfig) (stack locked : BitVec 8) :
    LgsProgram (Int × BitVec 8) := do
  let field := caLock config.prod
  let (ret, t) ← lgs8gxxReadReg config field.reg stack
  if ret ≠ 0 then
    return (ret, locked)
  else
    return (0, if t &&& field.mask = field.val then 1 else 0)

/-- `enum fe_status`, as the set of its flags. -/
structure FeStatus where
  hasSignal : Bool
  hasCarrier : Bool
  hasViterbi : Bool
  hasSync : Bool
  hasLock : Bool
  deriving DecidableEq

/-- The status of a demodulator that tells signal and lock apart. -/
def FeStatus.of (signal lock : Bool) : FeStatus := ⟨signal, signal, lock, lock, lock⟩

/-- `lgs8gxx_read_status`: the result, and `*fe_status`. The arguments are the locals of
`lgs8gxx_get_afc_phase`, `lgs8gxx_is_locked` and of the function itself on entry. -/
def lgs8gxxReadStatus (config : Lgs8gxxConfig) (afc isLocked stack : BitVec 8) :
    LgsProgram (Int × FeStatus) := do
  let _afc ← lgs8gxxGetAfcPhase config afc
  let (_ret, locked) ← lgs8gxxIsLocked config isLocked 0
  if config.prod = lgs8gxxProdLgs8g75 then
    return (0, .of (locked != 0) (locked != 0))
  else
    let (ret, t) ← lgs8gxxReadReg config 0x4B stack
    if ret ≠ 0 then
      return (-eio, .of false false)
    else if config.prod = lgs8gxxProdLgs8913 then
      return (0, .of (t &&& 0x40 == 0x40) (t &&& 0x80 == 0x80))
    else
      return (0, .of (t &&& 0x80 == 0x80) (t &&& 0x80 == 0x80))

/-! ## Signal strength -/

/-- The category of an AGC level. -/
def agcCategory (v : BitVec 16) : Nat :=
  if v < 0x100 then 0
  else if v < 0x190 then 5
  else if v < 0x2A8 then 4
  else if v < 0x381 then 3
  else if v < 0x400 then 2
  else if v = 0x400 then 1
  else 0

/-- `lgs8gxx_read_signal_agc`: the result, and `*signal`; `lvl0` and `lvl1` are what its array
holds on entry. -/
def lgs8gxxReadSignalAgc (config : Lgs8gxxConfig) (lvl0 lvl1 : BitVec 8) :
    LgsProgram (Int × BitVec 16) := do
  let (_ret, lvl0) ← lgs8gxxReadReg config 0x3F lvl0
  let (_ret, lvl1) ← lgs8gxxReadReg config 0x3E lvl1
  let v : BitVec 16 := lvl0.setWidth 16 <<< 8 ||| lvl1.setWidth 16
  return (0, BitVec.ofNat 16 (agcCategory v * 65535 / 5))

/-- The body of the loop of `lgs8913_read_signal_strength`, with `str` and `max_strength`. -/
def sampleStrength (config : Lgs8gxxConfig) (i : Nat) (vars : BitVec 8 × BitVec 16) :
    LgsProgram (BitVec 8 × BitVec 16) := do
  let (str, maxStrength) := vars
  writeWhen config (i &&& 0xFF = 0) 0x84 (0x03 &&& BitVec.ofNat 8 (i >>> 8))
  let _ret ← lgs8gxxWriteReg config 0x83 (BitVec.ofNat 8 (i &&& 0xFF))
  let (_ret, str) ← lgs8gxxReadReg config 0x94 str
  return (str, if maxStrength < str.setWidth 16 then str.setWidth 16 else maxStrength)

/-- `lgs8913_read_signal_strength`: the result, and `*signal`. `fake` is the module parameter
`fake_signal_str`; `t` and `str` are what the locals hold on entry. -/
def lgs8913ReadSignalStrength (config : Lgs8gxxConfig) (fake : Bool) (currGi : BitVec 16)
    (t str : BitVec 8) (signal : BitVec 16) : LgsProgram (Int × BitVec 16) := do
  let (ret, t) ← lgs8gxxReadReg config 0x4B t
  if ret ≠ 0 then
    return (-eio, signal)
  else if fake then
    return (0, if t &&& 0xC0 = 0xC0 then 0x7FFF else 0)
  else
    let (_str, maxStrength) ← Program.loop currGi.toNat (sampleStrength config) (str, 0)
    let (_ret, _noise) ← lgs8gxxReadReg config 0x95 t
    return (0, maxStrength)

/-- `lgs8g75_read_signal_strength`: the result, and `*signal`. -/
def lgs8g75ReadSignalStrength (config : Lgs8gxxConfig) (stack : BitVec 8) :
    LgsProgram (Int × BitVec 16) := do
  let (_ret, high) ← lgs8gxxReadReg config 0xB1 stack
  let (_ret, low) ← lgs8gxxReadReg config 0xB0 high
  return (0, high.setWidth 16 <<< 8 ||| low.setWidth 16)

/-- `lgs8gxx_read_signal_strength`; `stack` and `stack2` are what the two locals of the function
for the product hold on entry. -/
def lgs8gxxReadSignalStrength (config : Lgs8gxxConfig) (fake : Bool) (currGi : BitVec 16)
    (stack stack2 : BitVec 8) (signal : BitVec 16) : LgsProgram (Int × BitVec 16) :=
  if config.prod = lgs8gxxProdLgs8913 then
    lgs8913ReadSignalStrength config fake currGi stack stack2 signal
  else if config.prod = lgs8gxxProdLgs8g75 then
    lgs8g75ReadSignalStrength config stack
  else
    lgs8gxxReadSignalAgc config stack stack2

/-- `lgs8gxx_read_snr`: the result, and `*snr`. -/
def lgs8gxxReadSnr (config : Lgs8gxxConfig) (stack : BitVec 8) : LgsProgram (Int × BitVec 16) := do
  let regAddr : BitVec 8 := if config.prod = lgs8gxxProdLgs8g75 then 0x34 else 0x95
  let (_ret, t) ← lgs8gxxReadReg config regAddr stack
  return (0, (256 - t.setWidth 16) <<< 8)

/-- `lgs8gxx_read_ucblocks`: the result, and `*ucblocks`. -/
def lgs8gxxReadUcblocks : LgsProgram (Int × BitVec 32) := return (0, 0)

/-! ## Bit error rate -/

/-- `packet_counter_start`; `stack` is what its local `orig` holds on entry. -/
def packetCounterStart (config : Lgs8gxxConfig) (stack : BitVec 8) : LgsProgram Unit := do
  if config.prod = lgs8gxxProdLgs8g75 then
    let (_ret, orig) ← lgs8gxxReadReg config 0x30 stack
    let orig := orig &&& 0xE7
    let _ret ← lgs8gxxWriteReg config 0x30 (orig ||| 0x10)
    let _ret ← lgs8gxxWriteReg config 0x30 (orig ||| 0x18)
    let _ret ← lgs8gxxWriteReg config 0x30 (orig ||| 0x10)
    return ()
  else
    let _ret ← lgs8gxxWriteReg config 0xC6 0x01
    let _ret ← lgs8gxxWriteReg config 0xC6 0x41
    let _ret ← lgs8gxxWriteReg config 0xC6 0x01
    return ()

/-- `packet_counter_stop`; `stack` is what its local `t` holds on entry. -/
def packetCounterStop (config : Lgs8gxxConfig) (stack : BitVec 8) : LgsProgram Unit := do
  if config.prod = lgs8gxxProdLgs8g75 then
    let (_ret, t) ← lgs8gxxReadReg config 0x30 stack
    let _ret ← lgs8gxxWriteReg config 0x30 (t &&& 0xE7)
    return ()
  else
    let _ret ← lgs8gxxWriteReg config 0xC6 0x81
    return ()

/-- The rate that `lgs8gxx_read_ber` computes in 32 bits. -/
def berOf (errCnt totalCnt : BitVec 32) : BitVec 32 :=
  if totalCnt = 0 then 0 else errCnt * 100 / totalCnt

/-- The first registers of the two counters. -/
def counterRegs (prod : BitVec 8) : BitVec 8 × BitVec 8 :=
  if prod = lgs8gxxProdLgs8g75 then (0x28, 0x2C) else (0xD0, 0xD4)

/-- The counters and the rate, after the counters have stopped. -/
def readCounters (config : Lgs8gxxConfig) (stack : BitVec 8) : LgsProgram (Int × BitVec 32) := do
  let (regTotal, regErr) := counterRegs config.prod
  let (t, totalCnt) ← gatherBytes config [regTotal + 3, regTotal + 2, regTotal + 1, regTotal]
    stack 0
  let (_t, errCnt) ← gatherBytes config [regErr + 3, regErr + 2, regErr + 1, regErr] t 0
  return (0, berOf errCnt totalCnt)

/-- `lgs8gxx_read_ber`: the result, and `*ber`. The arguments are the locals of
`packet_counter_start`, `packet_counter_stop` and of the function itself on entry. -/
def lgs8gxxReadBer (config : Lgs8gxxConfig) (start stop stack : BitVec 8) :
    LgsProgram (Int × BitVec 32) := do
  packetCounterStart config start
  msleep 200
  packetCounterStop config stop
  readCounters config stack

/-! ## Other operations -/

/-- `lgs8gxx_write`. -/
def lgs8gxxWrite (config : Lgs8gxxConfig) (buf : List (BitVec 8)) : LgsProgram Int :=
  match buf with
  | [reg, data] => lgs8gxxWriteReg config reg data
  | _ => pure (-einval)

end Saa7231
