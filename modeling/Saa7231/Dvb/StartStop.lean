import Saa7231.Dvb.Adapter
import Saa7231.Stream.FreshStream

/-!
# Starting and stopping one stream

What one call of `saa7231_dvb_start_feed` or `saa7231_dvb_stop_feed` does. The start of a
first feed starts the DMA: `dma_start_started` says what this makes of the slot table, the
ring and the engine. The stop of the last feed clears a flag of the stream and leaves the
hardware alone (`dma_stop_board`).
-/

namespace Saa7231

open Interaction Bus

section Calls

variable (env : Environment) (dvb : Dvb) (board : Board)

/-- Starting the DMA changes the stream of the adapter only. -/
theorem dma_start_yields :
    (dmaStart dvb).Yields fun result => ∃ stream, result.2 = { dvb with stream := stream } := by
  unfold dmaStart
  rw [Program.yields_bind]
  refine Program.Yields.of_forall fun _ => ?_
  cases dvb.stream with
  | none => exact ⟨dvb.stream, rfl⟩
  | some stream =>
      cases hops : stream.ops with
      | unset => simp [hops]
      | ts2dtl =>
          simp only [hops, Program.yields_bind]
          refine Program.Yields.of_forall fun acquired => ?_
          simp only [Program.yields_ite, Program.yields_bind, Program.yields_pure]
          refine ⟨fun _ => ⟨_, rfl⟩, fun _ => Program.Yields.of_forall fun ran => ?_⟩
          exact ⟨fun _ => ⟨_, rfl⟩, fun _ => ⟨_, rfl⟩⟩

theorem only_acquire_and_run (stream : Stream) :
    (ts2dtlAcquire stream).Only (Touches (fun _ => True) [.overruns]) ∧
      (ts2dtlRun stream).Only (Touches (fun _ => True) [.overruns]) :=
  ⟨only_acquire (Or.inr (by simp)) fun _ _ => trivial, only_run fun _ _ => trivial⟩

/-- Starting the DMA is recorded once, whatever becomes of it. -/
theorem calls_dma_start :
    ((dmaStart dvb).run (boardWorld env) board).2.calls =
      (.dmaStart, dvb.adapter) :: board.calls := by
  unfold dmaStart
  rw [Program.run_bind, run_enter]
  cases dvb.stream with
  | none => rfl
  | some stream =>
      refine calls_frame (A := fun _ => True) (R := [.overruns]) ?_ (by simp) _
      cases hops : stream.ops with
      | unset => simp [hops]
      | ts2dtl =>
          simp only [hops]
          refine Program.Only.bind (only_acquire_and_run _).1 fun acquired => ?_
          simp only [Program.only_ite]
          refine ⟨fun _ => trivial, fun _ => ?_⟩
          refine Program.Only.bind (only_acquire_and_run _).2 fun ran => ?_
          simp only [Program.only_ite]
          exact ⟨fun _ => trivial, fun _ => trivial⟩

/-- The stream as `saa7231_ts2dtl_run` leaves it. -/
def Stream.running (stream : Stream) : Stream :=
  { stream with dtl := { stream.dtl with streamRun := true } }

/-- Starting the DMA of a transport stream runs the engine, whatever the acquire did. -/
theorem dma_start_run {stream : Stream} (hstream : dvb.stream = some stream)
    (hops : stream.ops = .ts2dtl) :
    (dmaStart dvb).run (boardWorld env) board =
      let acquired := (ts2dtlAcquire { stream with params := tsParams }).run (boardWorld env)
        { board with calls := (.dmaStart, dvb.adapter) :: board.calls }
      ((0, { dvb with stream := some acquired.1.2.running }),
        ((ts2dtlRun acquired.1.2).run (boardWorld env) acquired.2).2) := by
  have hzero := fun board : Board =>
    (acquire_reports_success { stream with params := tsParams }).run (boardWorld env) board
  unfold dmaStart
  rw [Program.run_bind, run_enter, hstream]
  simp only [hops] at hzero ⊢
  simp [hzero, run_value, Stream.running]

/-- The stream with its clock marked as stopped. -/
def Stream.unclocked (stream : Stream) : Stream :=
  { stream with dtl := { stream.dtl with clockRun := false } }

/-- `saa7231_ts2dtl_stop` clears a flag and nothing else. -/
theorem ts2dtl_stop_eq (stream : Stream) : ts2dtlStop stream = (0, stream.unclocked) := by
  unfold ts2dtlStop
  split
  next => rfl
  next hclock =>
      have hsame : stream.unclocked = stream := by
        unfold Stream.unclocked
        rw [Bool.not_eq_true] at hclock
        rw [← hclock]
      rw [hsame]

/-- Stopping the DMA is recorded and leaves the hardware alone. -/
theorem dma_stop_board :
    ((dmaStop dvb).run (boardWorld env) board).2 =
      { board with calls := (.dmaStop, dvb.adapter) :: board.calls } := by
  unfold dmaStop
  rw [Program.run_bind, run_enter]
  cases dvb.stream with
  | none => rfl
  | some stream =>
      cases hops : stream.ops with
      | unset => simp [hops]
      | ts2dtl => simp [hops, ts2dtl_stop_eq]

theorem dma_stop_value :
    ((dmaStop dvb).run (boardWorld env) board).1.2 =
      { dvb with stream := dvb.stream.map fun stream =>
          if stream.ops = .ts2dtl then stream.unclocked else stream } := by
  obtain ⟨adapter, vector, frontend, feeds, stream⟩ := dvb
  unfold dmaStop
  rw [Program.run_bind, run_enter]
  cases stream with
  | none => rfl
  | some stream =>
      cases hops : stream.ops with
      | unset => simp [hops]
      | ts2dtl => simp [hops, ts2dtl_stop_eq]

/-- A start counts the feed, and starts the DMA when it is the first. -/
theorem start_feed_run (hfrontend : dvb.frontend = true) :
    (startFeed dvb).run (boardWorld env) board =
      let started := (startFeedDma { dvb with feeds := dvb.feeds + 1 }).run (boardWorld env) board
      (((started.1.feeds.toNat : Int), started.1), started.2) := by
  simp [startFeed, hfrontend]

theorem stop_feed_run (hfrontend : dvb.frontend = true) :
    (stopFeed dvb).run (boardWorld env) board =
      let stopped := (stopFeedDma { dvb with feeds := dvb.feeds - 1 }).run (boardWorld env) board
      ((0, stopped.1), stopped.2) := by
  simp [stopFeed, hfrontend]

theorem start_feed_dma_yields :
    (startFeedDma dvb).Yields fun started => ∃ stream, started = { dvb with stream := stream } := by
  unfold startFeedDma
  simp only [Program.yields_ite, Program.yields_bind, Program.yields_pure]
  exact ⟨fun _ => (dma_start_yields dvb).mono fun _ h => h, fun _ => ⟨dvb.stream, rfl⟩⟩

theorem calls_start_feed_dma :
    ((startFeedDma dvb).run (boardWorld env) board).2.calls =
      (if dvb.feeds = 1 then [(.dmaStart, dvb.adapter)] else []) ++ board.calls := by
  unfold startFeedDma
  by_cases hfirst : dvb.feeds = 1
  · rw [if_pos hfirst, if_pos hfirst, Program.run_bind]
    exact calls_dma_start env dvb board
  · rw [if_neg hfirst, if_neg hfirst]
    rfl

/-- The first start is the start of the DMA. -/
theorem start_feed_dma_first (hfirst : dvb.feeds = 1) :
    (startFeedDma dvb).run (boardWorld env) board =
      let started := (dmaStart dvb).run (boardWorld env) board
      (started.1.2, started.2) := by
  unfold startFeedDma
  rw [if_pos hfirst, Program.run_bind]
  rfl

/-- Any other start only counts. -/
theorem start_feed_dma_further (hfurther : dvb.feeds ≠ 1) :
    (startFeedDma dvb).run (boardWorld env) board = (dvb, board) := by
  unfold startFeedDma
  rw [if_neg hfurther]
  rfl

theorem stop_feed_dma_run :
    (stopFeedDma dvb).run (boardWorld env) board =
      if dvb.feeds = 0 then
        ({ dvb with stream := dvb.stream.map fun stream =>
            if stream.ops = .ts2dtl then stream.unclocked else stream },
          { board with calls := (.dmaStop, dvb.adapter) :: board.calls })
      else (dvb, board) := by
  unfold stopFeedDma
  split
  next => simp [dma_stop_value, dma_stop_board]
  next => rfl

/-! ## Starting an initialised stream -/

/-- What starting the DMA does to an initialised stream: where the clock runs, the slot table
takes the first eight buffers again; the ring stays where it is, and the engine is enabled. -/
structure Started (env : Environment) (stream : Stream) (board : Board) (stream' : Stream)
    (board' : Board) : Prop where
  hardware : SameHardware { stream with params := tsParams } stream'
  ring : stream'.ring = stream.ring
  indexW : stream'.indexW =
    if stream.Clockable env then (stream.indexW + 8).bmod (2 ^ 32) else stream.indexW
  slot : ∀ i < 8, board'.slot (dmach stream.portId) i =
    if stream.Clockable env then stream.ring.ptPhys i else board.slot (dmach stream.portId) i
  running : stream'.dtl.streamRun = true
  enabled : board'.enabled stream'.dtl.module = true
  regs : ∀ address, ¬ Footprint stream.portId stream.dtl.module address →
    board'.regs address = board.regs address
  live : board'.live = board.live
  delivered : board'.delivered = board.delivered

theorem Started.equipped {stream stream' : Stream} {board' : Board}
    (hstarted : Started env stream board stream' board') (h : stream.Equipped) :
    stream'.Equipped := by
  have hparams : ({ stream with params := tsParams } : Stream).Equipped :=
    ⟨h.port, h.below, h.ops, h.length, h.offset, h.nonzero, h.distinct⟩
  exact hparams.transfer hstarted.hardware

/-- Acquiring and running an initialised stream. -/
theorem acquire_run_started {stream : Stream} (h : stream.Equipped) :
    let acquired := (ts2dtlAcquire { stream with params := tsParams }).run (boardWorld env) board
    Started env stream board acquired.1.2.running
      ((ts2dtlRun acquired.1.2).run (boardWorld env) acquired.2).2 := by
  have hlength := h.eight_buffers
  have hbelow := h.below_mmu
  have hsame : SameHardware { stream with params := tsParams } _ :=
    acquire_yields.run (boardWorld env) board
  have hvalue : ((ts2dtlAcquire { stream with params := tsParams }).run (boardWorld env)
      board).1 = _ := acquire_value env board ts_params_valid rfl hlength
  have hprograms : stream.Clockable env →
      Stream.Programs env { stream with params := tsParams } := fun hclock =>
    ⟨ts_params_valid, rfl, hlength, hbelow, hclock, h.port⟩
  intro acquired
  have hrun : (ts2dtlRun acquired.1.2).Only
      (Touches (InModule stream.dtl.module) []) :=
    only_run fun address hin => by rwa [hsame.module] at hin
  have hacquire : (ts2dtlAcquire { stream with params := tsParams }).Only
      (Touches (Footprint stream.portId stream.dtl.module) []) :=
    only_acquire (Or.inl hlength) fun _ h => h
  have hslot : ∀ i < 8, acquired.2.slot (dmach stream.portId) i =
      if stream.Clockable env then stream.ring.ptPhys i
      else board.slot (dmach stream.portId) i := by
    intro i hi
    split
    next hclock => exact slot_acquire env board (hprograms hclock) hi
    next hclock =>
        have hrefused : ((ts2dtlAcquire { stream with params := tsParams }).run (boardWorld env)
            board) = (_, board) :=
          acquire_refused env board ts_params_valid fun hboth => hclock hboth.1
        show ((ts2dtlAcquire _).run (boardWorld env) board).2.slot _ i = _
        rw [hrefused]
  exact
    { hardware := ⟨hsame.module, hsame.portId, hsame.buffers, hsame.params, hsame.ops,
        hsame.handle, hsame.array, hsame.ringHandle⟩
      ring := by
        show acquired.1.2.ring = stream.ring
        rw [hvalue]
        exact acquired_ring env
      indexW := by
        show acquired.1.2.indexW = _
        rw [hvalue]
        exact acquired_index_w env h.port
      slot := by
        intro i hi
        rw [slot_frame hrun fun fld hin => hin.not_in_channel hbelow (pta_in_channel _ fld hi)]
        exact hslot i hi
      running := rfl
      enabled := enabled_run env _
      regs := fun address hout =>
        (regs_frame hrun (fun hin => hout (Or.inl hin)) _).trans
          (regs_frame hacquire hout board)
      live := (live_frame hrun (by simp) _).trans (live_frame hacquire (by simp) board)
      delivered :=
        (delivered_frame hrun (by simp) _).trans (delivered_frame hacquire (by simp) board) }

/-- Starting the DMA of an initialised stream. -/
theorem dma_start_started {stream : Stream} (hstream : dvb.stream = some stream)
    (h : stream.Equipped) :
    ∃ stream', ((dmaStart dvb).run (boardWorld env) board).1.2 =
        { dvb with stream := some stream' } ∧
      Started env stream board stream' ((dmaStart dvb).run (boardWorld env) board).2 := by
  have hstarted := acquire_run_started env
    { board with calls := (.dmaStart, dvb.adapter) :: board.calls } h
  rw [dma_start_run env dvb board hstream h.ops]
  exact ⟨_, rfl, ⟨hstarted.hardware, hstarted.ring, hstarted.indexW, hstarted.slot,
    hstarted.running, hstarted.enabled, hstarted.regs, hstarted.live, hstarted.delivered⟩⟩

end Calls

end Saa7231

