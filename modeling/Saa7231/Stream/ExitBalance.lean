import Saa7231.Dvb.Evhandler
import Saa7231.Stream.FreshStream

/-!
# A stream releases what it owns

`streamInit` acquires the stream, the buffer array, the ring and five resources for each of the
sixteen buffers (`stream_init_acquires`). Acquiring, running, pausing and stopping the stream and
its interrupts pass buffers around and move the cursors, but reassign no pointer and leave the
ledger alone (`Stream.Keeps`). So `streamExit` finds what the initialisation left and releases it,
everything once (`stream_exit_releases_owned`), unless a page table overflowed: see
`exit_releases_owned_iff`.
-/

namespace Saa7231

open Interaction Bus

/-- What a stream owns, in the order in which it is released. -/
def Stream.resources (stream : Stream) : List Resource :=
  stream.ring.dmabuf.flatMap Dmabuf.resources ++
    [.kmem stream.array, .kmem stream.ringHandle, .kmem stream.handle]

/-- What happens to a stream between its initialisation and its exit, each with what the hardware
does meanwhile. -/
inductive StreamEvent where
  | acquire (env : Environment)
  | run (env : Environment)
  | pause (env : Environment)
  | stop
  | interrupt (env : Environment)

/-- One event on a stream and the board. -/
def Stream.step : Stream × Board → StreamEvent → Stream × Board
  | (stream, board), .acquire env =>
      let result := (ts2dtlAcquire stream).run (boardWorld env) board
      (result.1.2, result.2)
  | (stream, board), .run env =>
      let result := (ts2dtlRun stream).run (boardWorld env) board
      (result.1.2, result.2)
  | (stream, board), .pause env =>
      let result := (ts2dtlPause stream).run (boardWorld env) board
      (result.1.2, result.2)
  | (stream, board), .stop => ((ts2dtlStop stream).2, board)
  | (stream, board), .interrupt env => (evhandler stream).run (boardWorld env) board

/-! ## Events keep the pointers and the ledger -/

/-- The second state has the hardware, the pointers and the resources of the first. -/
structure Stream.Keeps (before after : Stream × Board) : Prop where
  hardware : SameHardware before.1 after.1
  ledger : after.2.ledger = before.2.ledger

theorem Stream.Keeps.refl (state : Stream × Board) : Stream.Keeps state state :=
  ⟨.refl state.1, rfl⟩

theorem Stream.Keeps.trans {first second third : Stream × Board} (h : Stream.Keeps first second)
    (h' : Stream.Keeps second third) : Stream.Keeps first third :=
  ⟨h.hardware.trans h'.hardware, h'.ledger.trans h.ledger⟩

/-- Operations that do not concern resources. -/
abbrev AwayFromLedger : BusOp BoardOp → Prop := Touches (fun _ => True) [.overruns, .delivered]

section Events

variable {stream : Stream}

theorem run_yields :
    (ts2dtlRun stream).Yields fun result => SameHardware stream result.2 := by
  simp only [ts2dtlRun, yields_rd, yields_wr, Program.yields_bind, Program.yields_pure]
  exact fun _ _ => (same_hardware_dtl ..).mpr rfl

theorem pause_yields :
    (ts2dtlPause stream).Yields fun result => SameHardware stream result.2 := by
  have hstopped :
      SameHardware stream { stream with dtl := { stream.dtl with streamRun := false } } :=
    (same_hardware_dtl ..).mpr rfl
  have hcounted : ∀ {stopped : Stream}, SameHardware stream stopped →
      SameHardware stream { stopped with dtl := { stopped.dtl with
        xLength := 0, yLength := 0, bLength := 0, dataLoss := 0, wrError := 0, tagError := 0,
        dtlHalt := 0 } } := fun h => h.trans ((same_hardware_dtl ..).mpr rfl)
  unfold ts2dtlPause
  dsimp only
  simp only [Program.yields_bind, Program.yields_ite, Program.yields_pure, yields_rd, yields_wr,
    yields_delay]
  -- Both ways to the second test of the enable bit go on alike.
  refine fun reg => ⟨fun _ => ⟨fun _ _ _ => ?_, fun _ => hcounted hstopped⟩,
    fun _ => ⟨fun _ _ _ => ?_, fun _ => hcounted hstopped⟩⟩
  all_goals
    exact setparams_yields.mono fun _ hsame =>
      ⟨fun _ => hstopped.trans hsame, fun _ => hcounted (hstopped.trans hsame)⟩

theorem only_pause : (ts2dtlPause stream).Only AwayFromLedger := by
  unfold ts2dtlPause
  dsimp only
  simp only [Program.only_ite, only_rd_bind, only_wr_bind, only_delay_bind]
  refine fun reg => ⟨fun _ => ⟨trivial, fun _ _ => ⟨trivial, fun _ => ⟨trivial, ?_⟩⟩,
    fun _ => trivial⟩, fun _ => ⟨fun _ _ => ⟨trivial, fun _ => ⟨trivial, ?_⟩⟩, fun _ => trivial⟩⟩
  all_goals
    refine Program.Only.bind
      (only_setparams (Or.inr (touches_beyond_array (by simp))) fun _ _ => trivial) fun _ => ?_
    rw [Program.only_ite]
    exact ⟨fun _ => trivial, fun _ => trivial⟩

end Events

/-- Every event keeps what the stream owns. -/
theorem Stream.step_keeps (state : Stream × Board) (event : StreamEvent) :
    Stream.Keeps state (Stream.step state event) := by
  have hledger : ∀ {α : Type} {program : BoardProgram α} (env : Environment),
      program.Only AwayFromLedger →
      (program.run (boardWorld env) state.2).2.ledger = state.2.ledger :=
    fun env honly => ledger_frame (R := [.overruns, .delivered]) honly (by simp) state.2
  cases event with
  | acquire env =>
      exact ⟨acquire_yields.run (boardWorld env) state.2,
        hledger env (only_acquire (Or.inr (by simp)) fun _ _ => trivial)⟩
  | run env =>
      exact ⟨run_yields.run (boardWorld env) state.2, hledger env (only_run fun _ _ => trivial)⟩
  | pause env => exact ⟨pause_yields.run (boardWorld env) state.2, hledger env only_pause⟩
  | stop =>
      refine ⟨?_, rfl⟩
      show SameHardware state.1 (ts2dtlStop state.1).2
      unfold ts2dtlStop
      split
      next => exact (same_hardware_dtl ..).mpr rfl
      next => exact .refl state.1
  | interrupt env =>
      exact ⟨evhandler_yields.run (boardWorld env) state.2,
        hledger env (only_evhandler fun _ _ => trivial)⟩

/-- So does every run of events. -/
theorem Stream.run_keeps (state : Stream × Board) (events : List StreamEvent) :
    Stream.Keeps state (events.foldl Stream.step state) := by
  induction events generalizing state with
  | nil => exact .refl state
  | cons event rest ih => exact (Stream.step_keeps state event).trans (ih _)

theorem SameHardware.resources {stream stream' : Stream} (h : SameHardware stream stream') :
    stream'.resources = stream.resources := by
  unfold Stream.resources
  rw [h.buffers, h.array, h.ringHandle, h.handle]

/-! ## What initialisation acquires -/

theorem Dmabuf.Allocated.built {dmabuf : Dmabuf} {board : Board} (h : dmabuf.Allocated board) :
    dmabuf.Built := by
  obtain ⟨virt, hvirt, -⟩ := h.page
  obtain ⟨mem, hmem, -⟩ := h.memory
  obtain ⟨sgList, hsgList, -⟩ := h.list
  exact ⟨h.type, by rw [hvirt]; rfl, h.nonzero, by rw [hmem]; rfl, by rw [hsgList]; rfl⟩

/-- An engine that was initialised without a `BUG_ON` owns its buffers, their array and the
ring. -/
theorem ts2dtl_init_acquires {env : Environment} {config : TsConfig} {initial engine : Stream}
    {pages : Nat} {board board' : Board}
    (hrun : (ts2dtlInit config initial pages).run (boardWorld env) board =
      ((0, engine), board')) (hbugs : board'.bugs = board.bugs) :
    engine.handle = initial.handle ∧ board.Acquires board'
      (engine.ring.dmabuf.flatMap Dmabuf.resources ++
        [.kmem engine.array, .kmem engine.ringHandle]) := by
  obtain ⟨config', clk, array, ringHandle, buffers, board₁, -, -, -, hacquires, rfl, hboard⟩ :=
    ts2dtl_init_run env config initial pages board hrun rfl
  have htable : (initPtables { initial with
      config := config', clk := clk, array := array, ringHandle := ringHandle,
      ring := ringInit buffers ringsiz }).Only AwayFromLedger :=
    only_init_ptables fun _ _ => trivial
  have hclose : (closeGates initial.portId).Only AwayFromLedger :=
    only_close_gates _ fun _ _ => trivial
  have hledger : board'.ledger = board₁.ledger := by
    rw [hboard, ledger_frame (R := [.overruns, .delivered]) hclose (by simp),
      ledger_frame (R := [.overruns, .delivered]) htable (by simp)]
  have hsame : board'.bugs = board₁.bugs := by
    rw [hboard, bugs_frame (R := [.overruns, .delivered]) hclose (by simp),
      bugs_frame (R := [.overruns, .delivered]) htable (by simp)]
  have hacquired := hacquires (hsame ▸ hbugs)
  exact ⟨rfl, hacquired.of_ledger rfl (congrArg (fun ledger => ledger.2.1) hledger)
    ((congrArg (fun ledger => ledger.2.2) hledger).trans hacquired.released)⟩

/-- A successful initialisation that reached no `BUG_ON` acquires what the stream owns. -/
theorem stream_init_acquires {env : Environment} {config : TsConfig} {adapType : AdapterType}
    {count pages : Nat} {board : Board} {stream : Stream} {board' : Board}
    (hrun : (streamInit config .digitalCapture adapType count pages).run (boardWorld env) board =
      (some stream, board')) (hbugs : board'.bugs = board.bugs) :
    board.Acquires board' stream.resources := by
  simp only [streamInit, Program.run_bind, run_kzalloc] at hrun
  cases hhandle : board.grant env .kmem with
  | none => simp [hhandle] at hrun
  | some handle =>
      simp only [hhandle, streamInitDigital, Program.run_ite, Program.run_bind,
        Program.run_pure, Option.map_some] at hrun
      by_cases hcount : 2 ≤ count
      · simp [hcount] at hrun
      rw [if_neg hcount] at hrun
      have hnew : board.Acquires (board.acquire (some (.kmem handle))) [.kmem handle] :=
        .single _ trivial (Board.grant_fresh hhandle)
      generalize hinit : (ts2dtlInit config _ pages).run (boardWorld env) _ = init at hrun
      obtain ⟨⟨ret, engine⟩, board₂⟩ := init
      by_cases hret : ret ≠ 0
      · simp [hret] at hrun
      rw [not_not] at hret
      subst hret
      rw [if_neg (by simp)] at hrun
      generalize hacquire : (ts2dtlAcquire _).run (boardWorld env) board₂ = acquired at hrun
      obtain ⟨⟨ret, used⟩, board₃⟩ := acquired
      dsimp only at hrun
      split at hrun
      next => cases hrun
      next =>
          cases hrun
          obtain ⟨hsame, hledger⟩ := Stream.step_keeps ({ engine with params := tsParams }, board₂)
            (.acquire env)
          simp only [Stream.step, hacquire] at hsame hledger
          have hfirst := bugs_of_run hinit
          have hsecond := bugs_of_run hacquire
          have hbefore : (board.acquire (some (.kmem handle))).bugs = board.bugs := rfl
          obtain ⟨hhandleSame, hengine⟩ := ts2dtl_init_acquires hinit (by omega)
          have hall := hnew.trans hengine
          have hresources : ({ used with init := true } : Stream).resources =
              engine.ring.dmabuf.flatMap Dmabuf.resources ++
                [.kmem engine.array, .kmem engine.ringHandle] ++ [.kmem handle] := by
            have hhandle : engine.handle = handle := hhandleSame
            show used.resources = _
            rw [hsame.resources, ← hhandle, List.append_assoc]
            rfl
          rw [hresources]
          exact hall.of_ledger rfl (congrArg (fun ledger => ledger.2.1) hledger)
            ((congrArg (fun ledger => ledger.2.2) hledger).trans hall.released)

/-! ## What exit releases -/

section Exit

variable (env : Environment) (board : Board)

theorem dmabuf_free_run {dmabuf : Dmabuf} (h : dmabuf.Built) :
    ((dmabufFree dmabuf).run (boardWorld env) board).2 = board.releaseAll dmabuf.resources := by
  obtain ⟨virt, hvirt⟩ := Option.isSome_iff_exists.mp h.page
  obtain ⟨mem, hmem⟩ := Option.isSome_iff_exists.mp h.memory
  obtain ⟨sgList, hsgList⟩ := Option.isSome_iff_exists.mp h.list
  have hphys : ¬ dmabuf.ptPhys = 0#64 := h.nonzero
  simp [dmabufFree, dmabufUnmap, dmabufFreeList, dmabufSgfree, freePtable, releaseSome, bugOn,
    h.type, hphys, hvirt, hmem, hsgList, Dmabuf.resources, Dmabuf.allocations,
    Board.releaseAll]

theorem free_buffers_run {buffers : List Dmabuf} (hbuilt : ∀ dmabuf ∈ buffers, dmabuf.Built) :
    ((freeBuffers buffers).run (boardWorld env) board).2 =
      board.releaseAll (buffers.flatMap Dmabuf.resources) := by
  induction buffers generalizing board with
  | nil => rfl
  | cons dmabuf rest ih =>
      simp only [freeBuffers, Program.run_bind, Program.run_pure, List.flatMap_cons,
        Board.release_all_append]
      rw [dmabuf_free_run env board (hbuilt dmabuf List.mem_cons_self),
        ih _ fun other hother => hbuilt other (List.mem_cons_of_mem _ hother)]

/-- Exit releases what the stream owns, and nothing else happens. -/
theorem stream_exit_run {stream : Stream} (hops : stream.ops = .ts2dtl)
    (hlength : stream.ring.dmabuf.length = ringsiz)
    (hbuilt : ∀ dmabuf ∈ stream.ring.dmabuf, dmabuf.Built) :
    ((streamExit stream).run (boardWorld env) board).2 = board.releaseAll stream.resources := by
  unfold streamExit
  rw [hops]
  simp only [ts2dtlExit, Program.run_bind, Program.run_pure, run_release]
  rw [← hlength, List.take_length, free_buffers_run env board hbuilt, Stream.resources,
    Board.release_all_append]
  rfl

end Exit

/-- A stream owns the memory, the scatterlist and its mapping, the page-table page and its mapping
of each of its sixteen buffers, the array of the buffers, the ring, and itself. -/
structure Stream.OwnsSixteen (stream : Stream) : Prop where
  length : stream.ring.dmabuf.length = 16
  buffer : ∀ dmabuf ∈ stream.ring.dmabuf, ∃ list mem virt, dmabuf.ptPhys ≠ 0 ∧
    dmabuf.resources = [.sg list, .vmem mem, .kmem list, .single dmabuf.ptPhys, .page virt]

/-- From the board before the initialisation: what the stream owns was acquired, the events kept
it, and the exit released it, each resource once. -/
structure Stream.ExitBalanced (before initialised used exited : Board) (owned : List Resource) :
    Prop where
  nodup : owned.Nodup
  acquired : ∀ resource, initialised.live resource = true ↔
    before.live resource = true ∨ resource ∈ owned
  kept : used.live = initialised.live
  released : exited.released = owned.reverse ++ before.released
  left : ∀ resource, exited.live resource = true ↔
    before.live resource = true ∧ resource ∉ owned

/-- After a successful initialisation that overwrote nothing, and any sequence of events, the exit of
a transport stream releases exactly what the stream owns, everything once. -/
theorem stream_exit_releases_owned {env : Environment} {config : TsConfig}
    {adapType : AdapterType} {count pages : Nat} {before : Board} {stream : Stream}
    {initialised : Board}
    (hinit : (streamInit config .digitalCapture adapType count pages).run (boardWorld env) before =
      (some stream, initialised)) (hbugs : initialised.bugs = before.bugs)
    (events : List StreamEvent) (envExit : Environment) :
    let used := events.foldl Stream.step (stream, initialised)
    stream.OwnsSixteen ∧
      Stream.ExitBalanced before initialised used.2
        ((streamExit used.1).run (boardWorld envExit) used.2).2 stream.resources := by
  intro used
  have hfresh := stream_init_fresh env hinit
  have hacquires := stream_init_acquires hinit hbugs
  have hkeeps : Stream.Keeps (stream, initialised) used := Stream.run_keeps _ events
  have hbuilt : ∀ dmabuf ∈ stream.ring.dmabuf, dmabuf.Built :=
    fun dmabuf hmem => (hfresh.allocated dmabuf hmem).built
  have hlive : used.2.live = initialised.live :=
    congrArg (fun ledger => ledger.2.1) hkeeps.ledger
  have hreleased : used.2.released = initialised.released :=
    congrArg (fun ledger => ledger.2.2) hkeeps.ledger
  have hexit : ((streamExit used.1).run (boardWorld envExit) used.2).2 =
      used.2.releaseAll stream.resources := by
    rw [stream_exit_run envExit used.2 (hkeeps.hardware.ops.trans hfresh.equipped.ops),
      hkeeps.hardware.resources]
    · rw [hkeeps.hardware.buffers]
      exact hfresh.equipped.length
    · rw [hkeeps.hardware.buffers]
      exact hbuilt
  refine ⟨⟨hfresh.equipped.length, fun dmabuf hmem => ?_⟩, hacquires.nodup, hacquires.live, hlive,
    ?_, ?_⟩
  · have h := hbuilt dmabuf hmem
    obtain ⟨virt, hvirt⟩ := Option.isSome_iff_exists.mp h.page
    obtain ⟨mem, hmem⟩ := Option.isSome_iff_exists.mp h.memory
    obtain ⟨sgList, hsgList⟩ := Option.isSome_iff_exists.mp h.list
    refine ⟨sgList.handle, mem, virt, h.nonzero, ?_⟩
    simp [Dmabuf.resources, Dmabuf.allocations, hvirt, hmem, hsgList]
  · rw [hexit, Board.released_release_all, hreleased, hacquires.released]
  · intro resource
    rw [hexit, Board.live_release_all, hlive, hacquires.live]
    tauto

end Saa7231
