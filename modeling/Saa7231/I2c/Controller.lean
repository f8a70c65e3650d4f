import Saa7231.Interaction.Bus
import Saa7231.Hardware.AddressMap

/-!
# The I2C masters (`saa7231_i2c.c`)

Four masters, each with its own register block. A transfer sets the GO bit once and pushes one
word into `TX_FIFO` for every address and every byte. `i2cSend` waits for the transmit path before
the word and for an empty `TX_FIFO` after it, and re-initialises the controller when the path
stays blocked. A byte of a read message is clocked by a dummy word and taken from `RX_FIFO` by
`i2cRecv`.
-/

namespace Saa7231

open Interaction Bus

/-! ## Registers (`saa7231_mod.h`, `saa7231_i2c_reg.h`) -/

def Mod.i2c0 : Nat := 0x00109000
def Mod.i2c1 : Nat := 0x0010a000
def Mod.i2c2 : Nat := 0x0010b000
def Mod.i2c3 : Nat := 0x0010c000

def rxFifo : Nat := 0x0000
def txFifo : Nat := 0x0000
def i2cStatus : Nat := 0x0008
def i2cControl : Nat := 0x000c
def i2cClockDivisorHigh : Nat := 0x0010
def i2cClockDivisorLow : Nat := 0x0014
def i2cSdaHold : Nat := 0x0028
def i2cIntClrEnable : Nat := 0x0fd8
def i2cIntClrStatus : Nat := 0x0fe8

def i2cStopBit : BitVec 32 := 1#32 <<< 9
def i2cStartBit : BitVec 32 := 1#32 <<< 8

def txFifoBlock : BitVec 32 := 1#32 <<< 11
def rxFifoBlock : BitVec 32 := 1#32 <<< 10
def txFifoFull : BitVec 32 := 1#32 <<< 7
def txFifoEmpty : BitVec 32 := 1#32 <<< 6
def rxFifoEmpty : BitVec 32 := 1#32 <<< 4

/-- `SAA7231_I2C_TXBUSY`. -/
def i2cTxbusy : BitVec 32 := txFifoBlock ||| txFifoFull

/-- `SAA7231_I2C_RXBUSY`. -/
def i2cRxbusy : BitVec 32 := rxFifoBlock ||| rxFifoEmpty

/-! ## Masters and messages -/

/-- `enum saa7231_i2c_rate`; `unknown` is every value outside the enumeration. -/
inductive I2cRate where
  | rate400
  | rate100
  | unknown
  deriving DecidableEq

/-- `enum saa7231_cgu_rootclk`. -/
inductive CguRootclk where
  | clkRoot27MHz
  | clkRoot54MHz
  | clkRootCustom
  deriving DecidableEq

/-- `struct saa7231_i2c`, with the root clock of the configuration. -/
structure I2c where
  i2cDev : Fin 4
  i2cRate : I2cRate
  rootClk : CguRootclk

/-- `SAA7231_I2C_BUS(i2c->i2c_dev)`: the register block of a master. -/
def I2c.dev (i2c : I2c) : Nat :=
  match i2c.i2cDev with
  | 0 => Mod.i2c0
  | 1 => Mod.i2c1
  | 2 => Mod.i2c2
  | 3 => Mod.i2c3

def i2cMRd : BitVec 16 := 0x0001

/-- `struct i2c_msg`; `len` is the length of the buffer. -/
structure I2cMsg where
  addr : BitVec 16
  flags : BitVec 16
  buf : List (BitVec 8)
  deriving DecidableEq

/-- The message reads from the slave. -/
def I2cMsg.isRead (msg : I2cMsg) : Bool := msg.flags &&& i2cMRd != 0

/-- Operations of a transfer beside register accesses. -/
inductive I2cOp where
  | mutexLock
  | mutexUnlock
  | udelay (microseconds : Nat)

def I2cAns : I2cOp → Type := fun _ => Unit

/-- Programs of the I2C code. -/
abbrev I2cProgram : Type → Type := BusProgram I2cAns

/-! ## Re-initialisation -/

section Hwinit

variable {Ext : Type} {ExtAns : Ext → Type}

/-- `saa7231_term_xfer`. -/
def termXfer (i2c : I2c) : BusProgram ExtAns Unit := do
  wr 0x00c0 (i2c.dev + i2cControl)
  delay 10
  wr 0x0080 (i2c.dev + i2cControl)
  delay 10
  wr 0x0000 (i2c.dev + i2cControl)
  delay 10
  wr 0x0080 (i2c.dev + i2cControl)
  delay 10
  wr 0x00c0 (i2c.dev + i2cControl)

/-- The polling loop of `saa7231_i2c_hwinit` with `polls` polls left. -/
def pollReset (i2c : I2c) : Nat → BusProgram ExtAns Int
  | 0 => pure (-eio)
  | polls + 1 => do
      let reg ← rd (i2c.dev + i2cControl)
      if reg = 0xc0 then
        return 0
      else
        delay 1
        pollReset i2c polls

/-- The values of the clock divisors and of the data hold time. -/
def i2cTiming : I2cRate → CguRootclk → Option (BitVec 32 × BitVec 32 × BitVec 32)
  | .rate400, .clkRoot54MHz => some (0x0021, 0x0047, 0x001f)
  | .rate400, .clkRoot27MHz => some (0x001a, 0x0021, 0x0019)
  | .rate100, .clkRoot54MHz => some (0x00d0, 0x010e, 0x007c)
  | .rate100, .clkRoot27MHz => some (0x0068, 0x0087, 0x0060)
  | _, .clkRootCustom | .unknown, _ => none

/-- The `switch` over rate and root clock of `saa7231_i2c_hwinit`. -/
def setTiming (i2c : I2c) : BusProgram ExtAns Unit :=
  match i2cTiming i2c.i2cRate i2c.rootClk with
  | some (high, low, hold) => do
      wr high (i2c.dev + i2cClockDivisorHigh)
      wr low (i2c.dev + i2cClockDivisorLow)
      wr hold (i2c.dev + i2cSdaHold)
  | none => pure ()

/-- `saa7231_i2c_hwinit`. -/
def i2cHwinit (i2c : I2c) : BusProgram ExtAns Int := do
  let reg ← rd (i2c.dev + i2cStatus)
  if reg &&& 0xd = 0 then
    return -eio
  wr 0x00cc (i2c.dev + i2cControl)
  wr 0x1fff (i2c.dev + i2cIntClrEnable)
  wr 0x1fff (i2c.dev + i2cIntClrStatus)
  wr 0x00c1 (i2c.dev + i2cControl)
  let err ← pollReset i2c 100
  if err ≠ 0 then
    termXfer i2c
    return -eio
  setTiming i2c
  wr 0x1fff (i2c.dev + i2cIntClrEnable)
  wr 0x1fff (i2c.dev + i2cIntClrStatus)
  let reg ← rd (i2c.dev + i2cStatus)
  if reg &&& 0xd = 0 then
    return -eio
  return 0

end Hwinit

/-! ## Words and bytes -/

/-- The first loop of `saa7231_i2c_send` with `tries` tries left. -/
def recoverTx (i2c : I2c) : Nat → I2cProgram Int
  | 0 => pure 0
  | tries + 1 => do
      delay 10
      let reg ← rd (i2c.dev + i2cStatus)
      if reg &&& i2cTxbusy = 0 then
        return 0
      let err ← i2cHwinit i2c
      if err < 0 then
        return -eio
      recoverTx i2c tries

/-- The second loop of `saa7231_i2c_send` with `polls` polls left: whether `TX_FIFO` was seen
empty. -/
def pollTxEmpty (i2c : I2c) : Nat → I2cProgram Bool
  | 0 => pure false
  | polls + 1 => do
      let reg ← rd (i2c.dev + i2cStatus)
      if reg &&& txFifoEmpty = 0 then
        pollTxEmpty i2c polls
      else
        return true

/-- The check of `saa7231_i2c_send` before the word is written. -/
def awaitTx (i2c : I2c) : I2cProgram Int := do
  let reg ← rd (i2c.dev + i2cStatus)
  if reg &&& i2cTxbusy = 0 then
    return 0
  recoverTx i2c 5

/-- `saa7231_i2c_send`. -/
def i2cSend (i2c : I2c) (data : BitVec 32) : I2cProgram Int := do
  let err ← awaitTx i2c
  if err < 0 then
    return err
  wr data (i2c.dev + txFifo)
  extra (I2cOp.udelay 200)
  let empty ← pollTxEmpty i2c 1000
  if !empty then
    return -eio
  return err

/-- The loop of `saa7231_i2c_recv` with `polls` polls left: whether a byte was seen. -/
def pollRx (i2c : I2c) : Nat → I2cProgram Bool
  | 0 => pure false
  | polls + 1 => do
      let reg ← rd (i2c.dev + i2cStatus)
      if reg &&& i2cRxbusy = 0 then
        return true
      else
        pollRx i2c polls

/-- `saa7231_i2c_recv`. -/
def i2cRecv (i2c : I2c) : I2cProgram (Except Int (BitVec 32)) := do
  let ready ← pollRx i2c 100
  if !ready then
    return .error (-eio)
  let data ← rd (i2c.dev + rxFifo)
  return .ok data

/-! ## Transfers -/

/-- The word that opens a message. -/
def addressWord (msg : I2cMsg) : BitVec 32 :=
  let data := msg.addr.setWidth 32 <<< 1 ||| i2cStartBit
  if msg.isRead then data ||| 1 else data

/-- The word of a byte: a read pushes a zero dummy, and `last` says that the byte ends the
transfer. -/
def dataWord (read last : Bool) (byte : BitVec 8) : BitVec 32 :=
  let data := if read then 0x00 else byte.setWidth 32
  if last then data ||| i2cStopBit else data

/-- The body of the inner loop of `saa7231_i2c_xfer`: the error, and the byte that the buffer
holds then. -/
def xferByte (i2c : I2c) (read last : Bool) (byte : BitVec 8) : I2cProgram (Int × BitVec 8) := do
  let err ← i2cSend i2c (dataWord read last byte)
  if err < 0 then
    return (-eio, byte)
  if read then
    match ← i2cRecv i2c with
    | .error _ => return (-eio, byte)
    | .ok data => return (0, data.setWidth 8)
  else
    return (err, byte)

/-- The inner loop of `saa7231_i2c_xfer` over the bytes left of a message, where `final` is
`i == num - 1`; the last byte of a message is the one with none after it. -/
def xferBytes (i2c : I2c) (read final : Bool) :
    List (BitVec 8) → I2cProgram (Int × List (BitVec 8))
  | [] => pure (0, [])
  | byte :: rest => do
      let (err, byte) ← xferByte i2c read (final && rest.isEmpty) byte
      if err < 0 then
        return (err, byte :: rest)
      let (err, rest) ← xferBytes i2c read final rest
      return (err, byte :: rest)

/-- The body of the outer loop of `saa7231_i2c_xfer`. -/
def xferMsg (i2c : I2c) (final : Bool) (msg : I2cMsg) : I2cProgram (Int × I2cMsg) := do
  let err ← i2cSend i2c (addressWord msg)
  if err < 0 then
    return (-eio, msg)
  let (err, buf) ← xferBytes i2c msg.isRead final msg.buf
  return (err, { msg with buf })

/-- The outer loop of `saa7231_i2c_xfer` over the messages left. -/
def xferMsgs (i2c : I2c) : List I2cMsg → I2cProgram (Int × List I2cMsg)
  | [] => pure (0, [])
  | msg :: rest => do
      let (err, msg) ← xferMsg i2c rest.isEmpty msg
      if err < 0 then
        return (err, msg :: rest)
      let (err, rest) ← xferMsgs i2c rest
      return (err, msg :: rest)

/-- `saa7231_i2c_xfer`: the result, and the messages with the bytes read. -/
def i2cXfer (i2c : I2c) (msgs : List I2cMsg) : I2cProgram (Int × List I2cMsg) := do
  extra I2cOp.mutexLock
  let reg ← rd (i2c.dev + i2cControl)
  wr (reg ||| 0x01) (i2c.dev + i2cControl)
  let (err, msgs') ← xferMsgs i2c msgs
  extra I2cOp.mutexUnlock
  return (if err ≠ 0 then err else msgs.length, msgs')

end Saa7231
