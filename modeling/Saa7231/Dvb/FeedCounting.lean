import Saa7231.Dvb.StartStop
import Saa7231.Interaction.Runs

/-!
# Feeds, DMA calls and the engine

A `Session` is an adapter with its board and the number of feeds the demux holds. The
counter of the adapter is that number modulo 256 (`Session.Counted`), which is enough for
the tests of `saa7231_dvb_start_feed` and `saa7231_dvb_stop_feed` as long as at most 256
feeds are held: the DMA is started and stopped on the right calls
(`dma_called_at_first_and_last_feed`). The engine is another matter: nothing disables it
(`engine_follows_feeds_iff`), and nothing reports that it could not be prepared
(`failed_start_reported_iff`).
-/

namespace Saa7231

open Interaction Bus

/-! ## Sessions -/

/-- An adapter, its board, and the number of feeds the demux holds on the adapter. -/
structure Session where
  dvb : Dvb
  board : Board
  outstanding : Nat

/-- The calls the demux makes, each with what the hardware does during it. -/
inductive FeedCall where
  | startFeed (env : Environment)
  | stopFeed (env : Environment)

/-- An adapter as `saa7231_dvb_init` leaves it, with a connected frontend. -/
def Session.opened (dvb : Dvb) (board : Board) : Session where
  dvb := { dvb with frontend := true, feeds := 0 }
  board := board
  outstanding := 0

/-- One call of the demux. -/
def Session.step (session : Session) : FeedCall → Session
  | .startFeed env =>
      let result := (startFeed session.dvb).run (boardWorld env) session.board
      ⟨result.1.2, result.2, session.outstanding + 1⟩
  | .stopFeed env =>
      let result := (stopFeed session.dvb).run (boardWorld env) session.board
      ⟨result.1.2, result.2, session.outstanding - 1⟩

/-- `demux.feednum`. -/
def feednum : Nat := 256

/-- The demux starts at most `feednum` feeds and stops only feeds it started. -/
def FeedCall.Valid (session : Session) : FeedCall → Prop
  | .startFeed _ => session.outstanding < feednum
  | .stopFeed _ => 0 < session.outstanding

/-- The counter of the adapter is the number of feeds modulo 256. -/
structure Session.Counted (session : Session) : Prop where
  frontend : session.dvb.frontend = true
  feeds : session.dvb.feeds = BitVec.ofNat 8 session.outstanding
  bound : session.outstanding ≤ feednum

theorem Session.opened_counted (dvb : Dvb) (board : Board) : (opened dvb board).Counted :=
  ⟨rfl, rfl, Nat.zero_le _⟩

section Step

variable {session : Session}

/-- The start of a feed sees the counter at one exactly when no feed was held. -/
theorem Session.Counted.first_iff (h : session.Counted) (hroom : session.outstanding < feednum) :
    session.dvb.feeds + 1 = 1 ↔ session.outstanding = 0 := by
  rw [h.feeds]
  unfold feednum at hroom
  constructor
  · intro heq
    have hnat := congrArg BitVec.toNat heq
    simp at hnat
    omega
  · intro hzero
    rw [hzero]
    rfl

/-- The stop of a feed sees the counter at zero exactly when one feed was held, also at the
wrap of the counter. -/
theorem Session.Counted.last_iff (h : session.Counted) (hheld : 0 < session.outstanding) :
    session.dvb.feeds - 1 = 0 ↔ session.outstanding = 1 := by
  rw [h.feeds]
  have hbound := h.bound
  unfold feednum at hbound
  constructor
  · intro heq
    have hnat := congrArg BitVec.toNat heq
    simp at hnat
    omega
  · intro hone
    rw [hone]
    rfl

/-- The adapter after the step of a call. -/
theorem Session.step_start (env : Environment) (hfrontend : session.dvb.frontend = true) :
    session.step (.startFeed env) =
      let started := (startFeedDma { session.dvb with feeds := session.dvb.feeds + 1 }).run
        (boardWorld env) session.board
      ⟨started.1, started.2, session.outstanding + 1⟩ := by
  simp only [step, start_feed_run env session.dvb session.board hfrontend]

theorem Session.step_stop (env : Environment) (hfrontend : session.dvb.frontend = true) :
    session.step (.stopFeed env) =
      let stopped := (stopFeedDma { session.dvb with feeds := session.dvb.feeds - 1 }).run
        (boardWorld env) session.board
      ⟨stopped.1, stopped.2, session.outstanding - 1⟩ := by
  simp only [step, stop_feed_run env session.dvb session.board hfrontend]

/-- Every call keeps the counter at the number of feeds modulo 256. -/
theorem Session.Counted.step (h : session.Counted) {call : FeedCall}
    (hvalid : call.Valid session) : (session.step call).Counted := by
  have hbound := h.bound
  cases call with
  | startFeed env =>
      obtain ⟨stream, hstarted⟩ := (start_feed_dma_yields
        { session.dvb with feeds := session.dvb.feeds + 1 }).run (boardWorld env)
        session.board
      rw [Session.step_start env h.frontend]
      refine ⟨?_, ?_, ?_⟩
      · dsimp only
        rw [hstarted]
        exact h.frontend
      · dsimp only
        rw [hstarted]
        show session.dvb.feeds + 1 = BitVec.ofNat 8 (session.outstanding + 1)
        rw [h.feeds, BitVec.ofNat_add]
        rfl
      · exact hvalid
  | stopFeed env =>
      have hheld : 0 < session.outstanding := hvalid
      have hfeeds : session.dvb.feeds - 1 = BitVec.ofNat 8 (session.outstanding - 1) := by
        obtain ⟨n, hn⟩ : ∃ n, session.outstanding = n + 1 := ⟨session.outstanding - 1, by omega⟩
        rw [h.feeds, hn, BitVec.ofNat_add]
        exact BitVec.add_sub_cancel _ _
      rw [Session.step_stop env h.frontend, stop_feed_dma_run]
      split
      next => exact ⟨h.frontend, hfeeds, Nat.le_trans (Nat.sub_le _ _) hbound⟩
      next => exact ⟨h.frontend, hfeeds, Nat.le_trans (Nat.sub_le _ _) hbound⟩

/-- The DMA call that belongs to a call of the demux: the start that takes the feeds from zero
to one starts it, the stop that takes them from one to zero stops it. -/
def FeedCall.dma (session : Session) : FeedCall → List (Routine × Nat)
  | .startFeed _ => if session.outstanding = 0 then [(.dmaStart, session.dvb.adapter)] else []
  | .stopFeed _ => if session.outstanding = 1 then [(.dmaStop, session.dvb.adapter)] else []

/-- A call makes the DMA call that belongs to it and no other. -/
theorem Session.Counted.calls (h : session.Counted) {call : FeedCall}
    (hvalid : call.Valid session) :
    (session.step call).board.calls = call.dma session ++ session.board.calls := by
  cases call with
  | startFeed env =>
      rw [Session.step_start env h.frontend]
      show ((startFeedDma _).run (boardWorld env) session.board).2.calls = _
      rw [calls_start_feed_dma]
      show (if session.dvb.feeds + 1 = 1 then _ else _) ++ _ = _
      simp only [h.first_iff hvalid, FeedCall.dma]
  | stopFeed env =>
      rw [Session.step_stop env h.frontend, stop_feed_dma_run]
      show Board.calls (if session.dvb.feeds - 1 = 0 then _ else _ : Dvb × Board).2 = _
      simp only [h.last_iff hvalid, FeedCall.dma]
      split <;> rfl

end Step

/-- Over every valid sequence of calls, `saa7231_dma_start` is invoked exactly on the calls
that take the number of feeds from zero to one, and `saa7231_dma_stop` exactly on those that
take it from one to zero. -/
theorem dma_called_at_first_and_last_feed (dvb : Dvb) (board : Board) (calls : List FeedCall)
    (hvalid : Each Session.step FeedCall.Valid (.opened dvb board) calls) :
    Each Session.step
      (fun session call =>
        (session.step call).board.calls = call.dma session ++ session.board.calls)
      (.opened dvb board) calls := by
  exact each_of_each (Session.opened_counted dvb board)
    (fun _ _ hcounted hcall => hcounted.step hcall)
    (fun _ _ hcounted hcall => hcounted.calls hcall) hvalid

/-- A feed that is started and stopped on an adapter without a stream. -/
theorem dma_called_for_one_feed :
    Each Session.step
      (fun session call =>
        (session.step call).board.calls = call.dma session ++ session.board.calls)
      (.opened ⟨0, 47, true, 0, none⟩ .reset) [.startFeed .plain, .stopFeed .plain] := by
  refine dma_called_at_first_and_last_feed _ _ _ ⟨?_, ?_, trivial⟩
  · show 0 < feednum
    decide
  · show 0 < 0 + 1
    decide

/-! ## The engine -/

/-- The engine of the adapter is enabled, in its register and in its flag. -/
def Session.Enabled (session : Session) : Prop :=
  ∃ stream, session.dvb.stream = some stream ∧
    session.board.enabled stream.dtl.module = true ∧ stream.dtl.streamRun = true

/-- The engine is enabled exactly while feeds are held. -/
def Session.EngineFollowsFeeds (session : Session) : Prop :=
  session.Enabled ↔ 0 < session.outstanding

/-- The call is not the stop of the last feed. -/
def FeedCall.KeepsFeed (session : Session) : FeedCall → Prop
  | .startFeed _ => True
  | .stopFeed _ => session.outstanding ≠ 1

/-- An adapter with a transport stream, whose engine has followed its feeds so far. -/
structure Session.Streaming (session : Session) : Prop where
  counted : session.Counted
  stream : ∃ stream, session.dvb.stream = some stream ∧ stream.ops = .ts2dtl
  follows : session.EngineFollowsFeeds

/-- Starting the DMA enables the engine. -/
theorem enabled_dma_start (env : Environment) (dvb : Dvb) (board : Board) {stream : Stream}
    (hstream : dvb.stream = some stream) (hops : stream.ops = .ts2dtl) :
    ∃ stream', ((dmaStart dvb).run (boardWorld env) board).1.2.stream = some stream' ∧
      stream'.ops = .ts2dtl ∧ stream'.dtl.streamRun = true ∧
      ((dmaStart dvb).run (boardWorld env) board).2.enabled stream'.dtl.module = true := by
  rw [dma_start_run env dvb board hstream hops]
  have hsame : SameHardware { stream with params := tsParams } _ :=
    acquire_yields.run (boardWorld env) { board with
      calls := (.dmaStart, dvb.adapter) :: board.calls }
  exact ⟨_, rfl, hsame.ops.trans hops, rfl, enabled_run env _⟩

theorem Session.Streaming.step {session : Session} (h : session.Streaming) {call : FeedCall}
    (hvalid : call.Valid session) (hkeeps : call.KeepsFeed session) :
    (session.step call).Streaming := by
  have hcounted := h.counted.step hvalid
  obtain ⟨stream, hstream, hops⟩ := h.stream
  cases call with
  | startFeed env =>
      rw [Session.step_start env h.counted.frontend] at hcounted ⊢
      have hfirst := h.counted.first_iff hvalid
      by_cases hzero : session.outstanding = 0
      · rw [start_feed_dma_first env _ _ (hfirst.mpr hzero)] at hcounted ⊢
        obtain ⟨stream', hstream', hops', hrun, henabled⟩ := enabled_dma_start env
          { session.dvb with feeds := session.dvb.feeds + 1 } session.board hstream hops
        have hon : Session.Enabled ⟨((dmaStart { session.dvb with
            feeds := session.dvb.feeds + 1 }).run (boardWorld env) session.board).1.2,
            ((dmaStart { session.dvb with feeds := session.dvb.feeds + 1 }).run
              (boardWorld env) session.board).2, session.outstanding + 1⟩ :=
          ⟨stream', hstream', henabled, hrun⟩
        exact ⟨hcounted, ⟨stream', hstream', hops'⟩,
          ⟨fun _ => Nat.succ_pos _, fun _ => hon⟩⟩
      · rw [start_feed_dma_further env _ _ fun heq => hzero (hfirst.mp heq)] at hcounted ⊢
        have hon : session.Enabled := h.follows.mpr (Nat.pos_of_ne_zero hzero)
        exact ⟨hcounted, ⟨stream, hstream, hops⟩, ⟨fun _ => Nat.succ_pos _, fun _ => hon⟩⟩
  | stopFeed env =>
      have hheld : 0 < session.outstanding := hvalid
      have hmore : session.outstanding ≠ 1 := hkeeps
      rw [Session.step_stop env h.counted.frontend, stop_feed_dma_run,
        if_neg fun heq => hmore ((h.counted.last_iff hheld).mp heq)] at hcounted ⊢
      have hon : session.Enabled := h.follows.mpr hheld
      refine ⟨hcounted, ⟨stream, hstream, hops⟩, ⟨fun _ => ?_, fun _ => hon⟩⟩
      show 0 < session.outstanding - 1
      omega

/-- The stop of the last feed leaves the engine enabled. -/
theorem Session.Streaming.last_stop {session : Session} (h : session.Streaming)
    {call : FeedCall} (hvalid : call.Valid session) (hlast : ¬ call.KeepsFeed session) :
    ¬ (session.step call).EngineFollowsFeeds := by
  obtain ⟨stream, hstream, hops⟩ := h.stream
  cases call with
  | startFeed env => exact absurd trivial hlast
  | stopFeed env =>
      have hone : session.outstanding = 1 := not_not.mp hlast
      obtain ⟨enabled, hfound, hregister, hflag⟩ := h.follows.mpr hvalid
      rw [Session.step_stop env h.counted.frontend, stop_feed_dma_run,
        if_pos ((h.counted.last_iff hvalid).mpr hone)]
      intro hfollows
      have hpositive : 0 < session.outstanding - 1 := by
        refine hfollows.mp ⟨enabled.unclocked, ?_, hregister, hflag⟩
        have hsame : enabled = stream := Option.some.inj (hfound.symm.trans hstream)
        show session.dvb.stream.map _ = _
        rw [hfound, hsame]
        simp [hops]
      omega

/-- A stream whose engine never ran. -/
theorem Session.opened_streaming {dvb : Dvb} (board : Board) {stream : Stream}
    (hstream : dvb.stream = some stream) (hops : stream.ops = .ts2dtl)
    (hoff : stream.dtl.streamRun = false) : (opened dvb board).Streaming := by
  refine ⟨Session.opened_counted dvb board, ⟨stream, hstream, hops⟩, ?_, ?_⟩
  · rintro ⟨found, hfound, -, hflag⟩
    have hsame : found = stream := Option.some.inj (hfound.symm.trans hstream)
    rw [hsame, hoff] at hflag
    exact Bool.noConfusion hflag
  · exact fun hpositive => absurd hpositive (Nat.lt_irrefl 0)

/-- Over every valid sequence of calls on an adapter with a transport stream, the engine is
enabled exactly while feeds are held if and only if no call stops the last feed. -/
theorem engine_follows_feeds_iff (dvb : Dvb) (board : Board) (stream : Stream)
    (hstream : dvb.stream = some stream) (hops : stream.ops = .ts2dtl)
    (hoff : stream.dtl.streamRun = false) (calls : List FeedCall)
    (hvalid : Each Session.step FeedCall.Valid (.opened dvb board) calls) :
    Always Session.step Session.EngineFollowsFeeds (.opened dvb board) calls ↔
      Each Session.step FeedCall.KeepsFeed (.opened dvb board) calls := by
  exact always_iff_each (Session.opened_streaming board hstream hops hoff)
    (fun _ h => h.follows) (fun _ _ h hcall hkeeps => h.step hcall hkeeps)
    (fun _ _ h hcall hlast => h.last_stop hcall hlast) hvalid

/-- An adapter with the given stream, before its frontend and feeds are set. -/
def Dvb.ofStream (stream : Stream) : Dvb where
  adapter := 0
  vector := 47
  frontend := true
  feeds := 0
  stream := some stream

/-- One feed of an initialised stream, started but not stopped. -/
theorem engine_follows_one_feed_iff :
    ∃ stream, plainInit = (some stream, plainInit.2) ∧
      (Always Session.step Session.EngineFollowsFeeds (.opened (.ofStream stream) plainInit.2)
          [.startFeed .plain] ↔
        Each Session.step FeedCall.KeepsFeed (.opened (.ofStream stream) plainInit.2)
          [.startFeed .plain]) := by
  obtain ⟨stream, hinit⟩ := plain_init
  have hfresh := plain_init_fresh hinit
  refine ⟨stream, hinit, engine_follows_feeds_iff (.ofStream stream) _ stream rfl
    hfresh.equipped.ops hfresh.streamRun _ ⟨?_, trivial⟩⟩
  show 0 < feednum
  decide

/-- One feed that is started and stopped again leaves the engine enabled without a feed. -/
theorem engine_left_enabled :
    ∃ stream, plainInit = (some stream, plainInit.2) ∧
      Each Session.step FeedCall.Valid (.opened (.ofStream stream) plainInit.2)
        [.startFeed .plain, .stopFeed .plain] ∧
      ¬ Always Session.step Session.EngineFollowsFeeds (.opened (.ofStream stream) plainInit.2)
        [.startFeed .plain, .stopFeed .plain] := by
  obtain ⟨stream, hinit⟩ := plain_init
  have hfresh := plain_init_fresh hinit
  have hroom : (0 : Nat) < feednum := by decide
  have hopened : (Session.opened (.ofStream stream) plainInit.2).Streaming :=
    Session.opened_streaming plainInit.2 rfl hfresh.equipped.ops hfresh.streamRun
  have hstarted := hopened.step (show (FeedCall.startFeed .plain).Valid _ from hroom) trivial
  have hstopped := hstarted.last_stop (show (FeedCall.stopFeed .plain).Valid _ from Nat.zero_lt_one)
    fun h => h rfl
  exact ⟨stream, hinit, ⟨hroom, Nat.zero_lt_one, trivial⟩, fun h => hstopped h.2.2⟩

end Saa7231
