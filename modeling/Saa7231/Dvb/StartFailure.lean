import Saa7231.Dvb.FeedCounting

/-!
# What a failed start reports

The acquire can fail at the clock, at the port and at the preload, and
`acquire_locked_succeeds_iff` says when it does. None of these errors leaves
`saa7231_ts2dtl_acquire`: the start of a first feed enables the engine and returns the number
of feeds all the same (`failed_start_reported_iff`).
-/

namespace Saa7231

open Interaction Bus

/-! ## When the acquire succeeds -/

/-- The set-up of the module reads no register. -/
theorem reads_setup_module (env : Environment) (stream : Stream) (board : Board)
    (hlength : 8 ≤ stream.ring.dmabuf.length) :
    ((ts2dtlSetupModule stream).run (boardWorld env) board).2.reads = board.reads := by
  have hrun := fun x hx board => run_wr_initial env stream board hlength (i := x) hx
  unfold ts2dtlSetupModule
  simp only [Program.run_bind, run_wr, hrun, Nat.reduceLT]
  rfl

theorem reads_open_gates (env : Environment) (stream : Stream) (board : Board) :
    ((ts2dtlOpenGates stream).run (boardWorld env) board).2.reads = board.reads := by
  unfold ts2dtlOpenGates
  simp only [Program.run_ite, Program.run_bind, run_wr, Program.run_pure]
  split_ifs <;> rfl

theorem reads_init_ptables (env : Environment) (stream : Stream) (board : Board) :
    ((initPtables stream).run (boardWorld env) board).2.reads = board.reads := by
  simp [initPtables, wrPta, Board.write]

/-- Setting the parameters reads the module identification and nothing else. -/
theorem reads_setparams (env : Environment) (stream : Stream) (board : Board)
    (hport : TsPort stream.portId) (htype : stream.params.type = .ts)
    (hlength : 8 ≤ stream.ring.dmabuf.length) :
    ((ts2dtlSetparams stream).run (boardWorld env) board).2.reads = board.reads + 1 := by
  have htabled : stream.tabled.params.type = .ts := htype
  have hsetup := fun board => reads_setup_module env stream.tabled board hlength
  simp [ts2dtlSetparams, open_gates_value, hport, init_ptables_value, htabled, hsetup,
    reads_init_ptables, reads_open_gates, Board.write]

/-- What the acquire of a stream needs from the hardware: a clock, a port with gates, and
bit 7 in one of the 1000 readings that follow the first two. -/
structure Stream.Prepares (env : Environment) (board : Board) (stream : Stream) : Prop where
  clock : stream.Clockable env
  port : TsPort stream.portId
  preload : env.PreloadSeen (board.reads + 2) (dmach stream.portId)

/-- The acquire reaches its label without an error exactly when the clock, the port and the
preload are there. -/
theorem acquire_locked_succeeds_iff (env : Environment) (stream : Stream) (board : Board)
    (htype : stream.params.type = .ts) (hlength : 8 ≤ stream.ring.dmabuf.length) :
    0 ≤ ((ts2dtlAcquireLocked stream).run (boardWorld env) board).1.1 ↔
      stream.Prepares env board := by
  have herror : -einval < 0 := by decide
  have hnegative : ¬ 0 ≤ -einval := Int.not_le.mpr herror
  by_cases hclock : stream.Clockable env
  · obtain ⟨ret, hret, hrun⟩ := ensure_clock_run env board hclock
    by_cases hport : TsPort stream.portId
    · have hset := setparams_value env stream.clocked board hport htype
      have hreads := reads_setparams env stream.clocked board hport htype hlength
      have hprepare := (run_prepare_value env
        ((ts2dtlSetparams stream.clocked).run (boardWorld env) board).2
        (show 8 ≤ stream.clocked.tabled.ring.dmabuf.length from hlength)).2
      rw [hreads] at hprepare
      have hpreload : stream.Prepares env board ↔
          env.PreloadSeen (board.reads + 2) (dmach stream.portId) :=
        ⟨fun h => h.preload, fun h => ⟨hclock, hport, h⟩⟩
      rw [hpreload]
      simp only [ts2dtlAcquireLocked, Program.run_bind, Program.run_ite, Program.run_pure, hrun,
        Int.not_lt.mpr hret, hset, if_false, Int.lt_irrefl]
      split
      next hfailed => exact ⟨fun h => absurd h hnegative, fun h => absurd h (hprepare.mp hfailed)⟩
      next hfine =>
          exact ⟨fun _ => not_not.mp fun h => hfine (hprepare.mpr h), fun _ => Int.not_lt.mp hfine⟩
    · have hrefused := setparams_refused env stream.clocked board hport
      simp only [ts2dtlAcquireLocked, Program.run_bind, Program.run_pure, hrun,
        Int.not_lt.mpr hret, hrefused, herror, if_false, if_true]
      exact ⟨fun h => absurd h hnegative, fun h => absurd h.port hport⟩
  · simp only [ts2dtlAcquireLocked, Program.run_bind, Program.run_pure,
      ensure_clock_refused env board hclock, herror, if_true]
    exact ⟨fun h => absurd h hnegative, fun h => absurd h.clock hclock⟩

/-! ## Starting the first feed -/

/-- The parameter check, the clock, the set-up and the preload of an acquire all succeed. -/
def AcquireSucceeds (env : Environment) (board : Board) (stream : Stream) : Prop :=
  stream.params.valid = true ∧
    0 ≤ ((ts2dtlAcquireLocked stream).run (boardWorld env) board).1.1

/-- The start of a feed enables the engine only if the acquire succeeds; otherwise the engine
is off, the start returns an error, and the feed is not counted. -/
def StartReported (env : Environment) (dvb : Dvb) (stream : Stream) (board : Board) : Prop :=
  let started := (startFeed dvb).run (boardWorld env) board
  let succeeds := AcquireSucceeds env board { stream with params := tsParams }
  let enabled := started.2.enabled stream.dtl.module = true
  (enabled → succeeds) ∧
    (¬ succeeds → ¬ enabled ∧ started.1.1 < 0 ∧ started.1.2.feeds = dvb.feeds)

/-- Whatever the hardware answers, the start of the first feed ends with an enabled engine. -/
theorem enabled_start_feed (env : Environment) (dvb : Dvb) (stream : Stream) (board : Board)
    (hstream : dvb.stream = some stream) (hops : stream.ops = .ts2dtl)
    (hfrontend : dvb.frontend = true) (hfirst : dvb.feeds = 0) :
    ((startFeed dvb).run (boardWorld env) board).2.enabled stream.dtl.module = true := by
  have hcounted : ({ dvb with feeds := dvb.feeds + 1 } : Dvb).feeds = 1 := by
    rw [hfirst]
    rfl
  rw [start_feed_run env dvb board hfrontend, start_feed_dma_first env _ _ hcounted]
  show ((dmaStart _).run (boardWorld env) board).2.enabled stream.dtl.module = true
  rw [dma_start_run env { dvb with feeds := dvb.feeds + 1 } board hstream hops]
  have hsame : SameHardware { stream with params := tsParams } _ :=
    acquire_yields.run (boardWorld env) { board with
      calls := (.dmaStart, dvb.adapter) :: board.calls }
  rw [← hsame.module]
  exact enabled_run env _

/-- The start of the first feed does what it should exactly when the hardware lets the
acquire succeed. -/
theorem failed_start_reported_iff (env : Environment) (dvb : Dvb) (stream : Stream)
    (board : Board) (hstream : dvb.stream = some stream) (hops : stream.ops = .ts2dtl)
    (hlength : 8 ≤ stream.ring.dmabuf.length) (hfrontend : dvb.frontend = true)
    (hfirst : dvb.feeds = 0) :
    StartReported env dvb stream board ↔ stream.Prepares env board := by
  have hlocked := acquire_locked_succeeds_iff env { stream with params := tsParams } board rfl
    hlength
  have hparams : ({ stream with params := tsParams } : Stream).Prepares env board ↔
      stream.Prepares env board :=
    ⟨fun h => ⟨h.clock, h.port, h.preload⟩, fun h => ⟨h.clock, h.port, h.preload⟩⟩
  have hsucceeds : AcquireSucceeds env board { stream with params := tsParams } ↔
      stream.Prepares env board :=
    (and_iff_right ts_params_valid).trans (hlocked.trans hparams)
  have henabled := enabled_start_feed env dvb stream board hstream hops hfrontend hfirst
  unfold StartReported
  rw [hsucceeds]
  exact ⟨fun h => h.1 henabled, fun h => ⟨fun _ => h, fun hnot => absurd h hnot⟩⟩

/-- An environment in which bit 7 of the DMA configuration is never seen. -/
def Environment.silent : Environment := { Environment.plain with reading := fun _ _ => 0 }

/-- The first start on an initialised stream, with ready hardware. -/
theorem plain_start_reported_iff :
    ∃ stream, plainInit = (some stream, plainInit.2) ∧
      (StartReported .plain (.ofStream stream) stream plainInit.2 ↔
        stream.Prepares .plain plainInit.2) := by
  obtain ⟨stream, hinit⟩ := plain_init
  have hfresh := plain_init_fresh hinit
  exact ⟨stream, hinit, failed_start_reported_iff .plain (.ofStream stream) stream plainInit.2 rfl
    hfresh.equipped.ops hfresh.equipped.eight_buffers rfl rfl⟩

/-- A start whose preload is never seen enables the engine all the same. -/
theorem silent_start_not_reported :
    ∃ stream, plainInit = (some stream, plainInit.2) ∧
      ¬ StartReported .silent (.ofStream stream) stream plainInit.2 := by
  obtain ⟨stream, hinit⟩ := plain_init
  have hfresh := plain_init_fresh hinit
  refine ⟨stream, hinit, fun hreported => ?_⟩
  have hsucceeds := hreported.1 (enabled_start_feed .silent (.ofStream stream) stream plainInit.2
    rfl hfresh.equipped.ops rfl rfl)
  have hprepares := (acquire_locked_succeeds_iff .silent { stream with params := tsParams }
    plainInit.2 rfl hfresh.equipped.eight_buffers).mp hsucceeds.2
  obtain ⟨k, -, hseen⟩ := hprepares.preload
  refine hseen ?_
  show (0 : BitVec 32) &&& 0x80 = 0
  decide

end Saa7231
