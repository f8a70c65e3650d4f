import Saa7231.Stream.Dmabuf
import Saa7231.Stream.Ts2dtl

/-!
# The life of a stream (`saa7231_stream.c`)

`streamInit` allocates a stream with its sixteen buffers, programs its slot table and
acquires it; `streamExit` frees everything again.
-/

namespace Saa7231

open Interaction Bus

/-- The transport-stream inputs of `struct saa7231_config`. -/
structure TsConfig where
  ts0Cfg : BitVec 32
  ts1Cfg : BitVec 32
  ts0Clk : BitVec 8
  ts1Clk : BitVec 8

/-- `enum adapter_type`. -/
inductive AdapterType where
  | internal
  | external
  deriving DecidableEq

/-- The port of the transport-stream engine with a number. -/
def AdapterType.tsPort (adapType : AdapterType) (count : Nat) : Nat :=
  match adapType with
  | .internal => streamPortTs2dDtv0 + count
  | .external => streamPortTs2dExtern0 + count

/-- The register module of the transport-stream engine with a number. -/
def AdapterType.tsModule (adapType : AdapterType) (count : Nat) : Nat :=
  match adapType with
  | .internal => Mod.ts2d0Dtv + count * 0x1000
  | .external => Mod.ts2d0Extern + count * 0x1000

/-- A stream in `kzalloc`ed memory. -/
def Stream.zero (handle : Nat) (mode : Mode) : Stream where
  handle := handle
  mode := mode
  portId := 0
  clk := 0
  config := 0
  dtl :=
    { module := 0, curInput := 0, addrPrev := 0, xLength := 0, yLength := 0, bLength := 0,
      dataLoss := 0, wrError := 0, tagError := 0, dtlHalt := 0, streamRun := false,
      clockRun := false }
  params := { bps := 0, spl := 0, lines := 0, pitch := 0, thrsh := 0, flags := 0, type := .none }
  ops := .unset
  init := false
  indexW := 0
  array := 0
  ringHandle := 0
  ring := ringInit [] 0

/-- The parameters that `saa7231_stream_init` and `saa7231_dma_start` give a transport
stream. -/
def tsParams : StreamParams where
  bps := 8
  spl := 188
  lines := 348
  pitch := 188
  thrsh := 0
  flags := 0
  type := .ts

theorem ts_params_valid : tsParams.valid = true := by decide

/-- `TS_PAGES_188`. -/
def tsPages188 : Nat := calcPages 188 348

/-! ## Initialisation -/

/-- The input configuration of `saa7231_ts2dtl_init`; `none` is the invalid port. -/
def ts2dtlConfigure (config : TsConfig) (stream : Stream) : Option Stream :=
  let port := stream.portId
  if port = streamPortTs2dDtv0 ∨ port = streamPortTs2dDtv1 then
    some { stream with config := 0x0 }
  else if port = streamPortTs2dExtern0 then
    some { stream with config := config.ts0Cfg, clk := config.ts0Clk }
  else if port = streamPortTs2dExtern1 then
    some { stream with config := config.ts1Cfg, clk := config.ts1Clk }
  else if port = streamPortTs2dCam then
    some { stream with config := 0x0181 }
  else
    none

/-- The allocation loop of `saa7231_ts2dtl_init` from buffer `i` on. -/
def allocBuffers (pages : Nat) : Nat → Nat → BoardProgram (Int × List Dmabuf)
  | _, 0 => pure (0, [])
  | i, n + 1 => do
      let (ret, dmabuf) ← dmabufAlloc Dmabuf.zero pages
      if ret < 0 then
        return (-enomem, [])
      let (ret, rest) ← allocBuffers pages (i + 1) n
      return (ret, { dmabuf with count := i } :: rest)

/-- The clock gates that `saa7231_ts2dtl_init` closes. -/
def closeGates (port : Nat) : BoardProgram Unit := do
  if port = streamPortTs2dDtv0 then
    wr 0 (Mod.stream + streamRaTs0LocClgate)
  else if port = streamPortTs2dDtv1 then
    wr 0 (Mod.stream + streamRaTs1LocClgate)
  else if port = streamPortTs2dExtern0 then
    wr 0 (Mod.stream + streamRaTs0ExtClgate)
  else if port = streamPortTs2dExtern1 then
    wr 0 (Mod.stream + streamRaTs1ExtClgate)
  else if port = streamPortTs2dCam then
    wr 0 (Mod.stream + streamRaTscaExtClgate)
    wr 0 (Mod.stream + streamRaTsmuxClgate)

/-- `saa7231_ts2dtl_init`. The invalid port returns with the lock held. -/
def ts2dtlInit (config : TsConfig) (stream : Stream) (pages : Nat) :
    BoardProgram (Int × Stream) := do
  mutexLock .devLock
  match ts2dtlConfigure config stream with
  | none => return (-einval, { stream with config := 0 })
  | some stream =>
      match ← kzalloc with
      | none =>
          mutexUnlock .devLock
          return (-enomem, stream)
      | some array =>
          let (ret, dmabuf) ← allocBuffers pages 0 ringsiz
          if ret < 0 then
            mutexUnlock .devLock
            return (-enomem, stream)
          match ← kzalloc with
          | none =>
              mutexUnlock .devLock
              return (-enomem, stream)
          | some ringHandle =>
              let stream := { stream with
                array := array, ringHandle := ringHandle, ring := ringInit dmabuf ringsiz }
              let stream ← initPtables stream
              closeGates stream.portId
              mutexUnlock .devLock
              return (ret, { stream with ops := .ts2dtl })

/-- The digital case of `saa7231_stream_init`. -/
def streamInitDigital (config : TsConfig) (stream : Stream) (adapType : AdapterType)
    (count pages : Nat) : BoardProgram (Option Stream) := do
  if 2 ≤ count then
    return none
  let (ret, stream) ← ts2dtlInit config { stream with
    portId := adapType.tsPort count
    dtl := { stream.dtl with module := adapType.tsModule count } } pages
  if ret ≠ 0 then
    return none
  let (ret, stream) ← ts2dtlAcquire { stream with params := tsParams }
  if ret < 0 then
    return none
  return some { stream with init := true }

/-- `saa7231_stream_init`. -/
def streamInit (config : TsConfig) (mode : Mode) (adapType : AdapterType) (count pages : Nat) :
    BoardProgram (Option Stream) := do
  match ← kzalloc with
  | none => return none
  | some handle =>
      let stream := Stream.zero handle mode
      match mode with
      | .audioCapture | .videoCapture =>
          if 1 ≤ count then
            return none
          return some { stream with init := true }
      | .vbiCapture =>
          if 1 ≤ count then
            return none
          let portId := match adapType with
            | .internal => streamPortDs2dAvis
            | .external => streamPortDs2dItu
          let module := match adapType with
            | .internal => Mod.ds2dAvis
            | .external => Mod.ds2dItu
          return some { stream with
            portId := portId, dtl := { stream.dtl with module := module }, init := true }
      | .digitalCapture => streamInitDigital config stream adapType count pages
      | .modeNone | .encoderCapture | .rdsCapture | .digitalRender | .remoteControl =>
          bug
          return some { stream with init := true }

/-! ## Exit -/

/-- The loop of `saa7231_ts2dtl_exit` over the buffer array. -/
def freeBuffers : List Dmabuf → BoardProgram (List Dmabuf)
  | [] => pure []
  | dmabuf :: rest => do
      let dmabuf ← dmabufFree dmabuf
      let rest ← freeBuffers rest
      return dmabuf :: rest

/-- `saa7231_ts2dtl_exit`. -/
def ts2dtlExit (stream : Stream) : BoardProgram Int := do
  let _freed ← freeBuffers (stream.ring.dmabuf.take ringsiz)
  release (.kmem stream.array)
  release (.kmem stream.ringHandle)
  return 0

/-- `saa7231_stream_exit`. -/
def streamExit (stream : Stream) : BoardProgram Unit := do
  match stream.ops with
  | .ts2dtl =>
      let _ret ← ts2dtlExit stream
      release (.kmem stream.handle)
  | .unset => return ()

end Saa7231
