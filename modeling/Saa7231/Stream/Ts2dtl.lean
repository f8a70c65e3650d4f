import Saa7231.Hardware.AddressMap
import Saa7231.Stream.Dmabuf
import Saa7231.Stream.Ring

/-!
# The transport-stream DMA engine (`saa7231_ts2dtl.c`)

A stream owns a ring of buffers, the page-table slots of one MMU channel, and one
stream-to-DMA module. `ts2dtlAcquire` programs the module and rewrites the eight slots with
the first buffers of the ring, `ts2dtlRun` starts the engine, `ts2dtlSetBuffer` replaces the
buffer of one slot while it runs.
-/

namespace Saa7231

open Interaction Bus

def ts2dBuffers : Nat := 8

/-! ## Stream ports and modes (`saa7231_priv.h`, `saa7231_cgu.h`) -/

def streamPortVs2dAvis : Nat := 0
def streamPortDs2dAvis : Nat := 4
def streamPortDs2dItu : Nat := 5
def streamPortAs2dLocal : Nat := 6
def streamPortTs2dDtv0 : Nat := 8
def streamPortTs2dDtv1 : Nat := 9
def streamPortTs2dExtern0 : Nat := 10
def streamPortTs2dExtern1 : Nat := 11
def streamPortTs2dCam : Nat := 12
def streamPortTsoifPc : Nat := 13

/-- `enum saa7231_mode`. -/
inductive Mode where
  | modeNone
  | audioCapture
  | vbiCapture
  | videoCapture
  | encoderCapture
  | rdsCapture
  | digitalCapture
  | digitalRender
  | remoteControl
  deriving DecidableEq

def Mode.value : Mode → Nat
  | .modeNone => 0x00
  | .audioCapture => 0x01
  | .vbiCapture => 0x02
  | .videoCapture => 0x04
  | .encoderCapture => 0x08
  | .rdsCapture => 0x10
  | .digitalCapture => 0x20
  | .digitalRender => 0x40
  | .remoteControl => 0x80

/-- `enum stream_type`. -/
inductive StreamType where
  | none
  | audio
  | video
  | vbi
  | ts
  | ps
  deriving DecidableEq

/-- `struct saa7231_dtl`. -/
structure Dtl where
  module : Nat
  curInput : BitVec 32
  addrPrev : BitVec 32
  xLength : BitVec 32
  yLength : BitVec 32
  bLength : BitVec 32
  dataLoss : BitVec 32
  wrError : BitVec 32
  tagError : BitVec 32
  dtlHalt : BitVec 32
  streamRun : Bool
  clockRun : Bool

/-- `struct stream_params`. -/
structure StreamParams where
  bps : BitVec 32
  spl : BitVec 32
  lines : BitVec 32
  pitch : BitVec 32
  thrsh : BitVec 32
  flags : BitVec 32
  type : StreamType

/-- The operations table of a stream: empty until an engine fills it. -/
inductive StreamOps where
  | unset
  | ts2dtl
  deriving DecidableEq

/-- `struct saa7231_stream`. The field `indexW` is a C `int`; a stream without an engine has a
ring without buffers. -/
structure Stream where
  handle : Nat
  mode : Mode
  portId : Nat
  clk : BitVec 8
  config : BitVec 32
  dtl : Dtl
  params : StreamParams
  ops : StreamOps
  init : Bool
  indexW : Int
  array : Nat
  ringHandle : Nat
  ring : Ring Dmabuf

/-! ## Address words (`saa7231_dtl.h`) -/

/-- `INDEX`. -/
def index (addr : BitVec 32) : BitVec 32 := (addr &&& 0x1c000000) >>> 26

/-- `DMACH`. -/
def dmach (port : Nat) : Nat := port + 1

def tcmask (tc : Nat) : BitVec 32 := BitVec.ofNat 32 tc <<< 29
def bufmask (x : Nat) : BitVec 32 := BitVec.ofNat 32 x <<< 26
def dmamask (port : Nat) : BitVec 32 := BitVec.ofNat 32 (dmach port) <<< 21

/-- `PTA(buf, x)`, where `buf` points to element `buf` of the ring's buffer array. An index
behind the end of the array reads whatever the memory holds there. -/
def pta (ring : Ring Dmabuf) (buf x : Nat) : BoardProgram (BitVec 32) :=
  match ring.dmabuf[buf + x]? with
  | some dmabuf => pure dmabuf.offset
  | none => beyondArray (buf + x)

/-- `DMAADDR(tc, port, buf, x)`. -/
def dmaaddr (tc port : Nat) (ring : Ring Dmabuf) (buf x : Nat) : BoardProgram (BitVec 32) := do
  let offset ← pta ring buf x
  return tcmask tc ||| bufmask x ||| dmamask port ||| offset

/-- `SAA7231_SETFIELD` for a field of the given offset and width. -/
def saa7231Setfield (mask : BitVec 32) (offst width : Nat) (val : BitVec 32) : BitVec 32 :=
  (mask &&& ~~~((((1 : BitVec 32) <<< width) - 1) <<< offst)) ||| (val <<< offst)

/-! ## Programming the engine -/

/-- The bus address of the page table of buffer `i`. -/
def Ring.ptPhys (ring : Ring Dmabuf) (i : Nat) : BitVec 64 :=
  (ring.dmabuf[i]?.getD Dmabuf.zero).ptPhys

/-- The two writes that put a page table into slot `i` of an MMU channel. -/
def wrPta (ch i : Nat) (phys : BitVec 64) : BoardProgram Unit := do
  wr (addrLsb phys) (Mod.mmu + mmuPta .lsb i ch)
  wr (addrMsb phys) (Mod.mmu + mmuPta .msb i ch)

/-- `saa7231_init_ptables`. -/
def initPtables (stream : Stream) : BoardProgram Stream := do
  let ring := stream.ring
  let ch := dmach stream.portId
  wr (BitVec.ofNat 32 (ts2dBuffers - 1)) (Mod.mmu + mmuDmaConfig ch)
  wrPta ch 0 (ring.ptPhys 0)
  wrPta ch 1 (ring.ptPhys 1)
  wrPta ch 2 (ring.ptPhys 2)
  wrPta ch 3 (ring.ptPhys 3)
  wrPta ch 4 (ring.ptPhys 4)
  wrPta ch 5 (ring.ptPhys 5)
  wrPta ch 6 (ring.ptPhys 6)
  wrPta ch 7 (ring.ptPhys 7)
  return { stream with indexW := (stream.indexW + 8).bmod (2 ^ 32) }

/-- The switch of `saa7231_ts2dtl_setparams` over the port: opens the clock gates and
configures the inputs. `false` is the invalid port. -/
def ts2dtlOpenGates (stream : Stream) : BoardProgram Bool := do
  let port := stream.portId
  if port = streamPortTs2dDtv0 then
    wr 0x1 (Mod.stream + streamRaTs0LocClgate)
    return true
  else if port = streamPortTs2dDtv1 then
    wr 0x1 (Mod.stream + streamRaTs1LocClgate)
    return true
  else if port = streamPortTs2dExtern0 then
    wr (stream.clk.setWidth 32) (Mod.stream + streamRaTs0ExtClgate)
    wr (stream.config &&& 0x7f) (Mod.stream + streamRaPs2p0ExtCfg)
    return true
  else if port = streamPortTs2dExtern1 then
    wr (stream.clk.setWidth 32) (Mod.stream + streamRaTs1ExtClgate)
    wr (stream.config &&& 0x7f) (Mod.stream + streamRaPs2p1ExtCfg)
    return true
  else if port = streamPortTs2dCam then
    wr 0x1 (Mod.stream + streamRaTscaExtClgate)
    wr (stream.config &&& 0x7f) (Mod.stream + streamRaPs2pCaExtCfg)
    wr 0x1 (Mod.stream + streamRaTsmuxClgate)
    wr ((stream.config >>> 7) &&& 0x1ff) (Mod.stream + streamRaTsOutConfig)
    wr stream.dtl.curInput (Mod.stream + streamRaTsSel)
    return true
  else
    return false

/-- `SAA7231_WR(DMAADDR(0, port, buf, x), module, S2D_CHx_B<i>_B_START_ADDRESS(0))`. -/
def wrBStart (stream : Stream) (buf i : Nat) : BoardProgram Unit := do
  let address ← dmaaddr 0 stream.portId stream.ring buf i
  wr address (stream.dtl.module + s2dChxBStartAddress i 0)

/-- The writes of `saa7231_ts2dtl_setparams` to the stream-to-DMA module, after its
parameters are accepted. -/
def ts2dtlSetupModule (stream : Stream) : BoardProgram Unit := do
  let module := stream.dtl.module
  let params := stream.params
  let bufSize := params.pitch * params.lines
  let stride := params.pitch
  let xLength := params.pitch
  let yLength := params.lines
  let blockControl := saa7231Setfield (saa7231Setfield 0 1 1 0x1) 0 1 0x0
  let channelControl : BitVec 32 := 0x29c
  wr 0x0 (module + s2dS2dCtrl)
  wr 0x0 (module + s2dCfgCtrl)
  wr (BitVec.ofNat 32 (ts2dBuffers - 1)) (module + s2dS2dMaxBStart)
  wr 0x2 (module + s2dClkGating)
  wr blockControl (module + s2dChxB0Ctrl 0)
  wrBStart stream 0 0
  wr bufSize (module + s2dChxB0BLength 0)
  wr stride (module + s2dChxB0Stride 0)
  wr xLength (module + s2dChxB0XLength 0)
  wr yLength (module + s2dChxB0YLength 0)
  wr blockControl (module + s2dChxB1Ctrl 0)
  wrBStart stream 0 1
  wr bufSize (module + s2dChxB1BLength 0)
  wr stride (module + s2dChxB1Stride 0)
  wr xLength (module + s2dChxB1XLength 0)
  wr yLength (module + s2dChxB1YLength 0)
  wrBStart stream 0 2
  wrBStart stream 0 3
  wrBStart stream 0 4
  wrBStart stream 0 5
  wrBStart stream 0 6
  wrBStart stream 0 7
  wr channelControl (module + s2dChxCtrl 0)

/-- `saa7231_ts2dtl_setparams`. The module identification is read and only reported. -/
def ts2dtlSetparams (stream : Stream) : BoardProgram (Int × Stream) := do
  let valid ← ts2dtlOpenGates stream
  if !valid then
    return (-einval, stream)
  wr 0x1 (stream.dtl.module + s2dSwRst)
  let stream ← initPtables stream
  let _id ← rd (stream.dtl.module + s2dModuleId)
  if stream.params.type ≠ .ts then
    return (-einval, stream)
  ts2dtlSetupModule stream
  return (0, stream)

/-- The polling loop of `saa7231_ts2dtl_run_prepare` with `delay` polls left: whether bit 7 of
the DMA configuration was seen. -/
def pollPreload (ch : Nat) : Nat → BoardProgram Bool
  | 0 => pure false
  | delay + 1 => do
      Bus.delay 10
      let run ← rd (Mod.mmu + mmuDmaConfig ch)
      if run &&& 0x80 ≠ 0 then
        return true
      else
        pollPreload ch delay

/-- `saa7231_ts2dtl_run_prepare`. -/
def ts2dtlRunPrepare (stream : Stream) : BoardProgram (Int × Stream) := do
  let ch := dmach stream.portId
  wrBStart stream 0 0
  wrBStart stream 0 1
  let reg ← rd (Mod.mmu + mmuDmaConfig ch)
  let reg := reg &&& ~~~0x40
  wr reg (Mod.mmu + mmuDmaConfig ch)
  wr (reg ||| 0x40) (Mod.mmu + mmuDmaConfig ch)
  let stream := { stream with dtl := { stream.dtl with addrPrev := 0xffffff } }
  let run ← pollPreload ch 1000
  if !run then
    return (-einval, stream)
  return (0, stream)

/-- The clock part of `saa7231_ts2dtl_acquire`. -/
def ts2dtlEnsureClock (stream : Stream) : BoardProgram (Int × Stream) := do
  if stream.dtl.clockRun then
    return (0, stream)
  let ret ← activateClocks stream.mode.value stream.portId
  if ret < 0 then
    return (-einval, stream)
  return (ret, { stream with dtl := { stream.dtl with clockRun := true } })

/-- The part of `saa7231_ts2dtl_acquire` between the locks, up to its label `err`: the error
that the label is reached with, and the stream. -/
def ts2dtlAcquireLocked (stream : Stream) : BoardProgram (Int × Stream) := do
  let (ret, stream) ← ts2dtlEnsureClock stream
  if ret < 0 then
    return (-einval, stream)
  let (ret, stream) ← ts2dtlSetparams stream
  if ret < 0 then
    return (-einval, stream)
  let (ret, stream) ← ts2dtlRunPrepare stream
  if ret < 0 then
    return (-einval, stream)
  return (ret, stream)

/-- The parameter check of `saa7231_ts2dtl_acquire`. -/
def StreamParams.valid (params : StreamParams) : Bool :=
  params.pitch != 0 && params.lines != 0 && params.bps != 0 && params.spl != 0

/-- `saa7231_ts2dtl_acquire`. Every path ends at the label `err`, which unlocks and returns
`0`; the parameter check jumps there before the lock is taken. -/
def ts2dtlAcquire (stream : Stream) : BoardProgram (Int × Stream) := do
  if !stream.params.valid then
    mutexUnlock .devLock
    return (0, stream)
  mutexLock .devLock
  let (_ret, stream) ← ts2dtlAcquireLocked stream
  mutexUnlock .devLock
  return (0, stream)

/-- `saa7231_ts2dtl_run`. -/
def ts2dtlRun (stream : Stream) : BoardProgram (Int × Stream) := do
  let module := stream.dtl.module
  let reg ← rd (module + s2dChxCtrl 0)
  wr (reg ||| 0x1) (module + s2dChxCtrl 0)
  let reg ← rd (module + s2dS2dCtrl)
  wr 0x3fff (module + s2dIntClrStatus 0)
  wr 0x1800 (module + s2dIntSetEnable 0)
  wr (reg ||| 0x1) (module + s2dS2dCtrl)
  return (0, { stream with dtl := { stream.dtl with streamRun := true } })

/-- `saa7231_ts2dtl_pause`. -/
def ts2dtlPause (stream : Stream) : BoardProgram (Int × Stream) := do
  let module := stream.dtl.module
  let reg ← rd (module + s2dS2dCtrl)
  let running := reg &&& 0x01 ≠ 0
  if running then
    wr (reg &&& 0xfffffffe) (module + s2dS2dCtrl)
    Bus.delay 25
  let mut stream := { stream with dtl := { stream.dtl with streamRun := false } }
  if running then
    let reg ← rd (module + s2dIntEnable 0)
    wr reg (module + s2dIntClrEnable 0)
    let reg ← rd (module + s2dIntStatus 0)
    wr reg (module + s2dIntClrStatus 0)
    let (ret, next) ← ts2dtlSetparams stream
    stream := next
    if ret ≠ 0 then
      return (-einval, stream)
  return (0, { stream with dtl := { stream.dtl with
    xLength := 0, yLength := 0, bLength := 0, dataLoss := 0, wrError := 0, tagError := 0,
    dtlHalt := 0 } })

/-- `saa7231_ts2dtl_stop`. -/
def ts2dtlStop (stream : Stream) : Int × Stream :=
  if stream.dtl.clockRun then
    (0, { stream with dtl := { stream.dtl with clockRun := false } })
  else
    (0, stream)

/-- `saa7231_ts2dtl_set_buffer` for the buffer at position `dmabuf` of the ring. The eight
cases of the switch are one. `none` stands for the result that C leaves uninitialised. -/
def ts2dtlSetBuffer (stream : Stream) (index : BitVec 32) (dmabuf : Nat) :
    BoardProgram (Option Int) := do
  let i := index.toNat
  if i < 8 then
    wrPta (dmach stream.portId) i (stream.ring.ptPhys dmabuf)
    wrBStart stream dmabuf i
    return none
  else
    return some (-einval)

/-- The counting of status bits in `saa7231_ts2dtl_get_buffer`. -/
def Dtl.countStatus (dtl : Dtl) (stat : BitVec 32) : Dtl :=
  let bump (bit count : BitVec 32) := if stat &&& bit ≠ 0 then count + 1 else count
  { dtl with
    xLength := bump 0x4 dtl.xLength
    yLength := bump 0x8 dtl.yLength
    bLength := bump 0x10 dtl.bLength
    dataLoss := bump 0x20 dtl.dataLoss
    wrError := bump 0x40 dtl.wrError
    tagError := bump 0x80 dtl.tagError
    dtlHalt := bump 0x100 dtl.dtlHalt }

/-- `saa7231_ts2dtl_get_buffer`: the result, the index if it was stored, and the stream. -/
def ts2dtlGetBuffer (stream : Stream) :
    BoardProgram (Int × Option (BitVec 32) × Stream) := do
  let module := stream.dtl.module
  if !stream.dtl.streamRun then
    return (0, some 0, stream)
  let reg ← rd (module + s2dChxCurrentAddress 0)
  let stat ← rd (module + s2dIntStatus 0)
  let mut stream := stream
  if stat ≠ 0 then
    wr stat (module + s2dIntClrStatus 0)
    stream := { stream with dtl := stream.dtl.countStatus stat }
  if reg = 0xffffffff then
    return (-einval, none, stream)
  let reg ← rd (module + s2dChxCurrentAddress 0)
  let indexPrev := index stream.dtl.addrPrev
  let mut current := reg
  if indexPrev = index reg then
    current ← rd (module + s2dChxCurrentAddress 0)
  return (0, some (index current), { stream with dtl := { stream.dtl with addrPrev := current } })

end Saa7231
