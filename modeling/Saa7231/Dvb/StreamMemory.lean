import Saa7231.Dvb.Evhandler
import Saa7231.Dvb.StartStop

/-!
# The memory behind one stream

`Stream.Backed` says that the buffers of a stream are allocated, that its slots name page
tables of these buffers, and that its engine is enabled exactly when the stream says so.
Starts, stops and interrupts of the adapter keep it (`start_feed_confined`,
`stop_feed_confined`, `interrupt_confined`), and so does everything that stays away from the
registers of the stream (`Stream.Backed.frame`).
-/

namespace Saa7231

open Interaction Bus

/-- The buffers of a stream are allocated, its slots name their page tables, and its flag tells
whether the engine is enabled. -/
structure Stream.Backed (stream : Stream) (board : Board) : Prop where
  equipped : stream.Equipped
  idle : ∃ position, stream.ring.Idle position
  allocated : ∀ dmabuf ∈ stream.ring.dmabuf, dmabuf.Allocated board
  slot : ∀ i < 8, ∃ j < ringsiz, board.slot (dmach stream.portId) i = stream.ring.ptPhys j
  enabled : board.enabled stream.dtl.module = stream.dtl.streamRun

/-- The registers that decide where a stream writes and whether it does: its slots and the
control register of its engine. -/
structure AvoidsStream (A : Nat → Prop) (port module : Nat) : Prop where
  control : ¬ A (module + s2dS2dCtrl)
  slots : ∀ i < 8, ∀ fld, ¬ A (Mod.mmu + mmuPta fld i (dmach port))

/-- What happens on an adapter with a stream, seen from the memory of the stream and from
outside. -/
structure Stream.Kept (stream : Stream) (board : Board) (stream' : Stream) (board' : Board) :
    Prop where
  portId : stream'.portId = stream.portId
  module : stream'.dtl.module = stream.dtl.module
  backed : stream'.Backed board'
  regs : ∀ address, ¬ Footprint stream.portId stream.dtl.module address →
    board'.regs address = board.regs address
  live : board'.live = board.live

namespace Stream.Backed

variable {stream : Stream} {board board' : Board}

/-- Registers of the stream that nobody writes keep what they say, on a board that loses no
resources. -/
theorem frame (h : stream.Backed board) {A : Nat → Prop}
    (havoids : AvoidsStream A stream.portId stream.dtl.module)
    (hregs : ∀ address, ¬ A address → board'.regs address = board.regs address)
    (hgrows : board.Grows board') : stream.Backed board' := by
  have hslot : ∀ i < 8, board'.slot (dmach stream.portId) i =
      board.slot (dmach stream.portId) i := by
    intro i hi
    unfold Board.slot
    rw [hregs _ (havoids.slots i hi .msb), hregs _ (havoids.slots i hi .lsb)]
  refine ⟨h.equipped, h.idle, fun dmabuf hmem => (h.allocated dmabuf hmem).mono hgrows, ?_, ?_⟩
  · intro i hi
    rw [hslot i hi]
    exact h.slot i hi
  · rw [← h.enabled]
    unfold Board.enabled
    rw [hregs _ havoids.control]

/-- Position `j` of the ring is a buffer. -/
theorem mem_ring (h : stream.Backed board) {j : Nat} (hj : j < ringsiz) :
    stream.ring.dmabuf[j]?.getD Dmabuf.zero ∈ stream.ring.dmabuf := by
  have hlength : j < stream.ring.dmabuf.length := h.equipped.length ▸ hj
  simp [hlength]

/-- A fresh stream on a board where its engine was off. -/
theorem of_fresh {adapType : AdapterType} {count : Nat}
    (h : stream.Fresh adapType count board board')
    (hoff : board.enabled stream.dtl.module = false) : stream.Backed board' := by
  refine ⟨h.equipped, ⟨0, h.idle⟩, h.allocated, fun i hi => ?_, ?_⟩
  · exact ⟨i, Nat.lt_trans hi (by decide), h.slot i hi⟩
  · rw [h.streamRun, ← Bool.not_eq_true]
    intro henabled
    rw [h.enabled henabled] at hoff
    exact Bool.noConfusion hoff

/-- The recorded calls do not matter. -/
theorem of_calls (h : stream.Backed board) (calls : List (Routine × Nat)) :
    stream.Backed { board with calls := calls } :=
  ⟨h.equipped, h.idle, fun dmabuf hmem => (h.allocated dmabuf hmem).mono fun _ h => h, h.slot,
    h.enabled⟩

end Stream.Backed

/-! ## What happens on an adapter -/

section Adapter

variable (env : Environment) {dvb : Dvb} {board : Board} {stream : Stream}

theorem Stream.Backed.kept (h : stream.Backed board) : stream.Kept board stream board :=
  ⟨rfl, rfl, h, fun _ _ => rfl, rfl⟩

/-- Starting the DMA. -/
theorem Started.kept {stream' : Stream} {board' : Board}
    (hstarted : Started env stream board stream' board') (h : stream.Backed board) :
    stream.Kept board stream' board' := by
  refine ⟨hstarted.hardware.portId, hstarted.hardware.module, ?_, hstarted.regs, hstarted.live⟩
  refine ⟨hstarted.equipped env board h.equipped, hstarted.ring ▸ h.idle, ?_, ?_, ?_⟩
  · rw [hstarted.hardware.buffers]
    exact fun dmabuf hmem => (h.allocated dmabuf hmem).mono (Board.Grows.of_live hstarted.live)
  · intro i hi
    rw [hstarted.hardware.portId, hstarted.slot i hi, hstarted.ring]
    by_cases hclock : stream.Clockable env
    · rw [if_pos hclock]
      exact ⟨i, Nat.lt_trans hi (by decide), rfl⟩
    · rw [if_neg hclock]
      exact h.slot i hi
  · rw [hstarted.enabled, hstarted.running]

theorem start_feed_kept (hstream : dvb.stream = some stream) (h : stream.Backed board) :
    ∃ stream', ((startFeed dvb).run (boardWorld env) board).1.2.stream = some stream' ∧
      stream.Kept board stream' ((startFeed dvb).run (boardWorld env) board).2 := by
  cases hfrontend : dvb.frontend with
  | false =>
      unfold startFeed
      rw [hfrontend]
      exact ⟨stream, hstream, h.kept⟩
  | true =>
      rw [start_feed_run env dvb board hfrontend]
      by_cases hfirst : dvb.feeds + 1 = 1
      · rw [start_feed_dma_first env _ _ hfirst]
        obtain ⟨stream', hvalue, hstarted⟩ := dma_start_started env
          { dvb with feeds := dvb.feeds + 1 } board hstream h.equipped
        refine ⟨stream', ?_, hstarted.kept env h⟩
        show ((dmaStart _).run _ _).1.2.stream = _
        rw [hvalue]
      · rw [start_feed_dma_further env _ _ hfirst]
        exact ⟨stream, hstream, h.kept⟩

/-- Stopping the DMA leaves the engine as it is. -/
theorem Stream.Backed.stopped (h : stream.Backed board) (calls : List (Routine × Nat)) :
    stream.Kept board stream.unclocked { board with calls := calls } := by
  have hboard := h.of_calls calls
  refine ⟨rfl, rfl, ?_, fun _ _ => rfl, rfl⟩
  exact ⟨⟨h.equipped.port, h.equipped.below, h.equipped.ops, h.equipped.length, h.equipped.offset,
    h.equipped.nonzero, h.equipped.distinct⟩, h.idle, hboard.allocated, h.slot, h.enabled⟩

theorem stop_feed_kept (hstream : dvb.stream = some stream) (h : stream.Backed board) :
    ∃ stream', ((stopFeed dvb).run (boardWorld env) board).1.2.stream = some stream' ∧
      stream.Kept board stream' ((stopFeed dvb).run (boardWorld env) board).2 := by
  cases hfrontend : dvb.frontend with
  | false =>
      unfold stopFeed
      rw [hfrontend]
      exact ⟨stream, hstream, h.kept⟩
  | true =>
      rw [stop_feed_run env dvb board hfrontend, stop_feed_dma_run]
      split
      next =>
          refine ⟨stream.unclocked, ?_, h.stopped _⟩
          show Option.map _ dvb.stream = _
          rw [hstream]
          simp [h.equipped.ops]
      next => exact ⟨stream, hstream, h.kept⟩

/-- An interrupt puts another buffer of the ring into a slot. -/
theorem interrupt_kept (hstream : dvb.stream = some stream) (h : stream.Backed board) :
    ∃ stream', ((adapterEvhandler dvb).run (boardWorld env) board).1.stream = some stream' ∧
      stream.Kept board stream' ((adapterEvhandler dvb).run (boardWorld env) board).2 := by
  obtain ⟨position, hidle⟩ := h.idle
  have hhandled := evhandler_handled env board hidle h.equipped.ops h.equipped.below_mmu
  have hexchanged := hhandled.exchanged
  rw [adapter_evhandler_run env board hstream]
  refine ⟨_, rfl, hhandled.hardware.portId, hhandled.hardware.module, ?_, hexchanged.regs,
    hexchanged.live⟩
  refine ⟨h.equipped.transfer hhandled.hardware, ⟨_, hhandled.idle⟩, ?_, ?_, ?_⟩
  · rw [hhandled.hardware.buffers]
    exact fun dmabuf hmem => (h.allocated dmabuf hmem).mono (Board.Grows.of_live hexchanged.live)
  · intro i hi
    rw [hhandled.hardware.portId, hexchanged.slot i hi]
    simp only [hhandled.hardware.pt_phys]
    split
    next => exact ⟨position, hidle.bound, rfl⟩
    next => exact h.slot i hi
  · rw [hhandled.hardware.module, hexchanged.enabled, hhandled.streamRun]
    exact h.enabled

/-! ### Without a stream nothing happens -/

theorem start_feed_none (hstream : dvb.stream = none) :
    ((startFeed dvb).run (boardWorld env) board).1.2.stream = none ∧
      ((startFeed dvb).run (boardWorld env) board).2.regs = board.regs ∧
      ((startFeed dvb).run (boardWorld env) board).2.live = board.live := by
  cases hfrontend : dvb.frontend with
  | false =>
      unfold startFeed
      rw [hfrontend]
      exact ⟨hstream, rfl, rfl⟩
  | true =>
      rw [start_feed_run env dvb board hfrontend]
      by_cases hfirst : dvb.feeds + 1 = 1
      · rw [start_feed_dma_first env _ _ hfirst]
        unfold dmaStart
        rw [Program.run_bind, run_enter, hstream]
        exact ⟨rfl, rfl, rfl⟩
      · rw [start_feed_dma_further env _ _ hfirst]
        exact ⟨hstream, rfl, rfl⟩

theorem stop_feed_none (hstream : dvb.stream = none) :
    ((stopFeed dvb).run (boardWorld env) board).1.2.stream = none ∧
      ((stopFeed dvb).run (boardWorld env) board).2.regs = board.regs ∧
      ((stopFeed dvb).run (boardWorld env) board).2.live = board.live := by
  cases hfrontend : dvb.frontend with
  | false =>
      unfold stopFeed
      rw [hfrontend]
      exact ⟨hstream, rfl, rfl⟩
  | true =>
      rw [stop_feed_run env dvb board hfrontend, stop_feed_dma_run]
      split
      next => exact ⟨congrArg (Option.map _) hstream, rfl, rfl⟩
      next => exact ⟨hstream, rfl, rfl⟩

theorem interrupt_none (hstream : dvb.stream = none) :
    (adapterEvhandler dvb).run (boardWorld env) board = (dvb, board) := by
  unfold adapterEvhandler
  rw [hstream]
  rfl

/-! ### With or without a stream -/

/-- What happens on an adapter concerns the memory and the registers of its stream only. -/
structure Dvb.Confined (dvb : Dvb) (board : Board) (dvb' : Dvb) (board' : Board) : Prop where
  vector : dvb'.vector = dvb.vector
  none : dvb.stream = none →
    dvb'.stream = none ∧ board'.regs = board.regs ∧ board'.live = board.live
  some : ∀ stream, dvb.stream = some stream → stream.Backed board →
    ∃ stream', dvb'.stream = some stream' ∧ stream.Kept board stream' board'

theorem start_feed_confined (dvb : Dvb) (board : Board) :
    dvb.Confined board ((startFeed dvb).run (boardWorld env) board).1.2
      ((startFeed dvb).run (boardWorld env) board).2 := by
  refine ⟨?_, start_feed_none env, fun stream => start_feed_kept env⟩
  cases hfrontend : dvb.frontend with
  | false =>
      unfold startFeed
      rw [hfrontend]
      rfl
  | true =>
      obtain ⟨stream, hstarted⟩ := (start_feed_dma_yields { dvb with feeds := dvb.feeds + 1 }).run
        (boardWorld env) board
      rw [start_feed_run env dvb board hfrontend]
      dsimp only
      rw [hstarted]

theorem stop_feed_confined (dvb : Dvb) (board : Board) :
    dvb.Confined board ((stopFeed dvb).run (boardWorld env) board).1.2
      ((stopFeed dvb).run (boardWorld env) board).2 := by
  refine ⟨?_, stop_feed_none env, fun stream => stop_feed_kept env⟩
  cases hfrontend : dvb.frontend with
  | false =>
      unfold stopFeed
      rw [hfrontend]
      rfl
  | true =>
      rw [stop_feed_run env dvb board hfrontend, stop_feed_dma_run]
      split <;> rfl

theorem interrupt_confined (dvb : Dvb) (board : Board) :
    dvb.Confined board ((adapterEvhandler dvb).run (boardWorld env) board).1
      ((adapterEvhandler dvb).run (boardWorld env) board).2 := by
  refine ⟨?_, fun hstream => ?_, fun stream => interrupt_kept env⟩
  · cases hstream : dvb.stream with
    | none => rw [interrupt_none env hstream]
    | some stream => rw [adapter_evhandler_run env board hstream]
  · rw [interrupt_none env hstream]
    exact ⟨hstream, rfl, rfl⟩

end Adapter

end Saa7231
