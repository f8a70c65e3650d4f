import Saa7231.Stream.Lifecycle

/-!
# The DVB adapter (`saa7231_dvb.c`)

The demux starts and stops feeds; the first start acquires and runs the stream of the
adapter, the last stop stops it. The event handler writes one buffer of the ring into the
slot table and hands one buffer to the demux.
-/

namespace Saa7231

open Interaction Bus

/-- `struct saa7231_dvb`; `frontend` says whether a frontend is connected to the demux. -/
structure Dvb where
  adapter : Nat
  vector : Nat
  frontend : Bool
  feeds : BitVec 8
  stream : Option Stream

/-! ## Starting and stopping DMA -/

/-- `saa7231_dma_start`. -/
def dmaStart (dvb : Dvb) : BoardProgram (Int × Dvb) := do
  enter .dmaStart dvb.adapter
  match dvb.stream with
  | none => return (-enomem, dvb)
  | some stream =>
      let stream := { stream with params := tsParams }
      match stream.ops with
      | .unset => return (-einval, { dvb with stream := some stream })
      | .ts2dtl =>
          let (ret, stream) ← ts2dtlAcquire stream
          if ret < 0 then
            return (-eio, { dvb with stream := some stream })
          let (ret, stream) ← ts2dtlRun stream
          if ret < 0 then
            return (-eio, { dvb with stream := some stream })
          return (ret, { dvb with stream := some stream })

/-- `saa7231_dma_stop`. -/
def dmaStop (dvb : Dvb) : BoardProgram (Int × Dvb) := do
  enter .dmaStop dvb.adapter
  match dvb.stream with
  | none => return (-enomem, dvb)
  | some stream =>
      match stream.ops with
      | .unset => return (-einval, dvb)
      | .ts2dtl =>
          let (ret, stream) := ts2dtlStop stream
          if ret < 0 then
            return (-eio, { dvb with stream := some stream })
          return (0, { dvb with stream := some stream })

/-! ## Feeds -/

/-- The body of `saa7231_dvb_start_feed` under the lock, after the feed was counted. Its error
is only reported. -/
def startFeedDma (dvb : Dvb) : BoardProgram Dvb :=
  if dvb.feeds = 1 then do
    let (_ret, dvb) ← dmaStart dvb
    return dvb
  else
    return dvb

/-- `saa7231_dvb_start_feed`. Every path through the lock returns the number of feeds. -/
def startFeed (dvb : Dvb) : BoardProgram (Int × Dvb) := do
  if !dvb.frontend then
    return (-einval, dvb)
  mutexLock (.feedlock dvb.adapter)
  let dvb ← startFeedDma { dvb with feeds := dvb.feeds + 1 }
  mutexUnlock (.feedlock dvb.adapter)
  return (dvb.feeds.toNat, dvb)

/-- The body of `saa7231_dvb_stop_feed` under the lock, after the feed was counted. -/
def stopFeedDma (dvb : Dvb) : BoardProgram Dvb :=
  if dvb.feeds = 0 then do
    let (_ret, dvb) ← dmaStop dvb
    return dvb
  else
    return dvb

/-- `saa7231_dvb_stop_feed`. -/
def stopFeed (dvb : Dvb) : BoardProgram (Int × Dvb) := do
  if !dvb.frontend then
    return (-einval, dvb)
  mutexLock (.feedlock dvb.adapter)
  let dvb ← stopFeedDma { dvb with feeds := dvb.feeds - 1 }
  mutexUnlock (.feedlock dvb.adapter)
  return (0, dvb)

/-! ## The event handler -/

/-- The slot that the handler writes next: `index_w` wraps lazily. -/
def nextSlot (indexW : Int) : Int :=
  if indexW > (ts2dBuffers : Int) - 1 then 0 else indexW

/-- The part of the event handler that writes a buffer of the ring into the slot table. -/
def evhandlerFill (stream : Stream) : BoardProgram Stream :=
  if ringFull stream.ring then
    return stream
  else
    let (dmabuf, ring) := ringWrite stream.ring
    let stream := { stream with ring := ring }
    match stream.ops with
    | .unset => return stream
    | .ts2dtl => do
        let stream := { stream with indexW := nextSlot stream.indexW }
        let _ret ← ts2dtlSetBuffer stream (BitVec.ofInt 32 stream.indexW) dmabuf
        return { stream with indexW := (stream.indexW + 1).bmod (2 ^ 32) }

/-- The part of the event handler that hands a buffer of the ring to the demux. -/
def evhandlerDeliver (stream : Stream) : BoardProgram Stream :=
  if ringEmpty stream.ring then
    return stream
  else do
    let (dmabuf, ring) := ringRead stream.ring
    swfilterPackets dmabuf 348
    return { stream with ring := ring }

/-- The call of `get_buffer` at the start of the event handler. -/
def evhandlerLook (stream : Stream) : BoardProgram Stream :=
  match stream.ops with
  | .unset => return stream
  | .ts2dtl => do
      let (_ret, _index, stream) ← ts2dtlGetBuffer stream
      return stream

/-- The event handlers of both external inputs, on the stream of their adapter. -/
def evhandler (stream : Stream) : BoardProgram Stream := do
  let stream ← evhandlerLook stream
  let stream ← evhandlerFill stream
  evhandlerDeliver stream

/-- The event handler of an adapter. Its event is registered after its stream. -/
def adapterEvhandler (dvb : Dvb) : BoardProgram Dvb :=
  match dvb.stream with
  | none => return dvb
  | some stream => do
      let stream ← evhandler stream
      return { dvb with stream := some stream }

/-- An event handler on the adapter with a number. -/
def dvbEvhandler (number : Nat) (dvb : List Dvb) : BoardProgram (List Dvb) :=
  match dvb[number]? with
  | none => return dvb
  | some adapter => do
      let adapter ← adapterEvhandler adapter
      return dvb.set number adapter

/-- `saa7231_dvbts2d0_evhandler`. -/
def dvbts2d0Evhandler : List Dvb → BoardProgram (List Dvb) := dvbEvhandler 0

/-- `saa7231_dvbts2d1_evhandler`. -/
def dvbts2d1Evhandler : List Dvb → BoardProgram (List Dvb) := dvbEvhandler 1

end Saa7231
