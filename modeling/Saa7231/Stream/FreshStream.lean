import Saa7231.Stream.Allocation
import Saa7231.Stream.Lifecycle
import Saa7231.Stream.Ts2dtlEffects
import Mathlib.Data.List.Nodup

/-!
# What initialisation establishes

The main result, `stream_init_fresh`, lists what a successful `streamInit` of a digital
stream leaves behind: sixteen allocated buffers with pairwise different page tables, an idle
ring at position zero, slot `i` naming buffer `i`, and nothing changed outside the registers
of the stream. `stream_exit_dead` says that `streamExit` leaves no page table live.
-/

namespace Saa7231

open Interaction Bus

/-- What stays fixed about the hardware of a transport stream. -/
structure Stream.Equipped (stream : Stream) : Prop where
  port : TsPort stream.portId
  below : stream.dtl.module + 0x1000 ≤ Mod.stream
  ops : stream.ops = .ts2dtl
  length : stream.ring.dmabuf.length = ringsiz
  offset : ∀ i < ringsiz, stream.ring.offset i = 0
  nonzero : ∀ i < ringsiz, stream.ring.ptPhys i ≠ 0
  distinct : ∀ i < ringsiz, ∀ j < ringsiz,
    stream.ring.ptPhys i = stream.ring.ptPhys j → i = j

/-- The registers of the engine lie below the memory management unit. -/
theorem Stream.Equipped.below_mmu {stream : Stream} (h : stream.Equipped) :
    stream.dtl.module + 0x1000 ≤ Mod.mmu := Nat.le_trans h.below (by decide)

/-- There is a buffer for every slot. -/
theorem Stream.Equipped.eight_buffers {stream : Stream} (h : stream.Equipped) :
    8 ≤ stream.ring.dmabuf.length := by
  rw [h.length]
  decide

/-- The buffers of a list are allocated, at pairwise different addresses and offset zero. -/
structure BuffersAllocated (buffers : List Dmabuf) (board : Board) : Prop where
  allocated : ∀ dmabuf ∈ buffers, dmabuf.Allocated board
  offset : ∀ dmabuf ∈ buffers, dmabuf.offset = 0
  distinct : (buffers.map Dmabuf.ptPhys).Nodup

/-- One more buffer, with a page table of its own. -/
theorem BuffersAllocated.cons {dmabuf : Dmabuf} {buffers : List Dmabuf} {board : Board}
    (h : BuffersAllocated buffers board) (hallocated : dmabuf.Allocated board)
    (hoffset : dmabuf.offset = 0) (hout : ∀ other ∈ buffers, other.ptPhys ≠ dmabuf.ptPhys) :
    BuffersAllocated (dmabuf :: buffers) board := by
  refine ⟨List.forall_mem_cons.mpr ⟨hallocated, h.allocated⟩,
    List.forall_mem_cons.mpr ⟨hoffset, h.offset⟩, List.nodup_cons.mpr ⟨?_, h.distinct⟩⟩
  intro hmem
  obtain ⟨other, hother, heq⟩ := List.mem_map.mp hmem
  exact hout other hother heq

section Init

variable (env : Environment)

/-- The allocation loop: as many buffers as asked for, at addresses that were free. Unless a
`BUG_ON` was reached, it acquires what the buffers own. -/
theorem alloc_buffers_spec (pages i n : Nat) (board : Board) {ret : Int} {buffers : List Dmabuf}
    {board' : Board}
    (hrun : (allocBuffers pages i n).run (boardWorld env) board = ((ret, buffers), board'))
    (hret : 0 ≤ ret) :
    ret = 0 ∧ buffers.length = n ∧ BuffersAllocated buffers board' ∧ board.Grows board' ∧
      (∀ dmabuf ∈ buffers, board.live (.single dmabuf.ptPhys) = false) ∧
      (board'.bugs = board.bugs → board.Acquires board' (buffers.flatMap Dmabuf.resources)) := by
  -- That the addresses were free is what makes the buffers of the rest differ from the first.
  induction n generalizing i board ret buffers with
  | zero =>
      simp only [allocBuffers, Program.run_pure, Prod.mk.injEq] at hrun
      obtain ⟨⟨rfl, rfl⟩, rfl⟩ := hrun
      exact ⟨rfl, rfl, ⟨by simp, by simp, by simp⟩, fun _ h => h, by simp,
        fun _ => .of_same rfl rfl⟩
  | succ n ih =>
      simp only [allocBuffers, Program.run_bind] at hrun
      generalize hfirst : (dmabufAlloc Dmabuf.zero pages).run (boardWorld env) board = first
        at hrun
      obtain ⟨⟨retFirst, dmabuf⟩, board₁⟩ := first
      by_cases hfailed : retFirst < 0
      · simp only [hfailed, if_true, Program.run_pure, Prod.mk.injEq] at hrun
        exact absurd hret (by rw [← hrun.1.1]; decide)
      obtain ⟨-, hallocated, hoffset, hfree, hgrows⟩ :=
        dmabuf_alloc_spec env board pages hfirst (Int.not_lt.mp hfailed)
      obtain ⟨-, -, -, hacquires⟩ :=
        dmabuf_alloc_acquires env board pages hfirst (Int.not_lt.mp hfailed)
      simp only [hfailed, if_false, Program.run_bind] at hrun
      generalize hrest : (allocBuffers pages (i + 1) n).run (boardWorld env) board₁ = rest at hrun
      obtain ⟨⟨retRest, buffersRest⟩, board₂⟩ := rest
      simp only [Program.run_pure, Prod.mk.injEq] at hrun
      obtain ⟨⟨rfl, rfl⟩, rfl⟩ := hrun
      obtain ⟨hzero, hlength, hbuffers, hgrowsRest, hfreeRest, hacquiresRest⟩ :=
        ih (i + 1) board₁ hrest hret
      -- The first buffer is live before the others are allocated, so none shares its address.
      have hfirstOut : ∀ other ∈ buffersRest, other.ptPhys ≠ dmabuf.ptPhys := by
        intro other hmem heq
        have hother := hfreeRest other hmem
        rw [heq, hallocated.mapping] at hother
        exact Bool.noConfusion hother
      have hnumbered : ({ dmabuf with count := i } : Dmabuf).Allocated board₂ :=
        have h := hallocated.mono hgrowsRest
        ⟨h.type, h.page, h.nonzero, h.mapping, h.memory, h.list⟩
      have hmono := bugs_of_run hfirst
      have hmonoRest := bugs_of_run hrest
      refine ⟨hzero, by simp [hlength], hbuffers.cons hnumbered hoffset hfirstOut,
        hgrows.trans hgrowsRest, ?_, ?_⟩
      · refine List.forall_mem_cons.mpr ⟨hfree, fun other hother => ?_⟩
        by_contra hlive
        have hafter := hgrows _ (Bool.not_eq_false _ ▸ hlive)
        rw [hfreeRest other hother] at hafter
        exact Bool.noConfusion hafter
      · intro hsame
        rcases hacquires with hall | ⟨hbug, -⟩
        · have hboth := hall.trans (hacquiresRest (by omega))
          exact hboth.perm List.perm_append_comm
        · omega

/-! ## The registers that initialisation writes -/

/-- The allocation of the buffers manages memory. -/
theorem only_alloc_buffers (pages i n : Nat) : (allocBuffers pages i n).Only Manages := by
  induction n generalizing i with
  | zero => trivial
  | succ n ih =>
      refine Program.Only.bind (only_dmabuf_alloc _ _) fun first => ?_
      simp only [Program.only_ite]
      refine ⟨fun _ => trivial, fun _ => ?_⟩
      exact Program.Only.bind (ih (i + 1)) fun _ => trivial

/-- A configured stream differs in its configuration only. -/
theorem ts2dtl_configure_cases (config : TsConfig) {stream stream' : Stream}
    (hsome : ts2dtlConfigure config stream = some stream') :
    ∃ config' clk, stream' = { stream with config := config', clk := clk } := by
  unfold ts2dtlConfigure at hsome
  dsimp only at hsome
  split_ifs at hsome <;> exact ⟨_, _, (Option.some.inj hsome).symm⟩

/-- The gates are registers of the stream unit. -/
theorem only_close_gates (port : Nat) {A : Nat → Prop} {E : BoardOp → Prop}
    (hA : ∀ address, InModule Mod.stream address → A address) :
    (closeGates port).Only (WritesIn A E) := by
  have hgate : ∀ offset < 0x1000, A (Mod.stream + offset) := fun offset h =>
    hA _ ⟨by omega, by omega⟩
  unfold closeGates
  simp [hgate, streamRaTs0LocClgate, streamRaTs1LocClgate, streamRaTs0ExtClgate,
    streamRaTs1ExtClgate, streamRaTscaExtClgate, streamRaTsmuxClgate]

/-- The initialisation stays within the channel and the stream unit. -/
theorem only_ts2dtl_init (config : TsConfig) (stream : Stream) (pages : Nat) {A : Nat → Prop}
    (hA : ∀ address, InChannel (dmach stream.portId) address ∨ InModule Mod.stream address →
      A address) :
    (ts2dtlInit config stream pages).Only (Touches A [.ledger, .bugs]) := by
  simp only [ts2dtlInit, only_mutex_lock_bind]
  refine ⟨by simp [BoardOp.record], fun _ => ?_⟩
  cases hconfigured : ts2dtlConfigure config stream with
  | none => trivial
  | some configured =>
      obtain ⟨_, _, rfl⟩ := ts2dtl_configure_cases config hconfigured
      simp only [only_kzalloc_bind]
      refine ⟨by simp [BoardOp.record], fun array => ?_⟩
      cases array with
      | none => simp [BoardOp.record]
      | some array =>
          refine Program.Only.bind
            ((only_alloc_buffers _ _ _).mono fun _ => Manages.touches) fun buffers => ?_
          simp only [Program.only_ite]
          refine ⟨fun _ => by simp [BoardOp.record], fun _ => ?_⟩
          simp only [only_kzalloc_bind]
          refine ⟨by simp [BoardOp.record], fun ringHandle => ?_⟩
          cases ringHandle with
          | none => simp [BoardOp.record]
          | some ringHandle =>
              refine Program.Only.bind (only_init_ptables fun address h => ?_) fun tabled => ?_
              · exact hA address (Or.inl h)
              refine Program.Only.bind (only_close_gates _ fun address h => ?_) fun _ => ?_
              · exact hA address (Or.inr h)
              simp [BoardOp.record]

/-! ## The engine after its initialisation -/

/-- A successful `saa7231_ts2dtl_init` up to its programming of the slot table. -/
theorem ts2dtl_init_run (config : TsConfig) (stream : Stream) (pages : Nat) (board : Board)
    {ret : Int} {stream' : Stream} {board' : Board}
    (hrun : (ts2dtlInit config stream pages).run (boardWorld env) board =
      ((ret, stream'), board')) (hret : ret = 0) :
    ∃ config' clk array ringHandle buffers board₁,
      buffers.length = ringsiz ∧ BuffersAllocated buffers board₁ ∧ board.Grows board₁ ∧
      (board₁.bugs = board.bugs → board.Acquires board₁
        (buffers.flatMap Dmabuf.resources ++ [.kmem array, .kmem ringHandle])) ∧
      stream' = { ({ stream with
        config := config', clk := clk, array := array, ringHandle := ringHandle,
        ring := ringInit buffers ringsiz } : Stream).tabled with ops := .ts2dtl } ∧
      board' = ((closeGates stream.portId).run (boardWorld env)
        ((initPtables { stream with
          config := config', clk := clk, array := array, ringHandle := ringHandle,
          ring := ringInit buffers ringsiz }).run (boardWorld env) board₁).2).2 := by
  simp only [ts2dtlInit, Program.run_bind, run_mutex_lock] at hrun
  -- Every request that fails ends in an error, so a success has passed them all.
  cases hconfigured : ts2dtlConfigure config stream with
  | none =>
      simp only [hconfigured, Program.run_pure, Prod.mk.injEq] at hrun
      exact absurd hret (by rw [← hrun.1.1]; decide)
  | some configured =>
      obtain ⟨config', clk, rfl⟩ := ts2dtl_configure_cases config hconfigured
      simp only [hconfigured, Program.run_bind, run_kzalloc] at hrun
      cases harray : board.grant env .kmem with
      | none =>
          simp only [harray, Program.run_bind, Program.run_pure, Prod.mk.injEq] at hrun
          exact absurd hret (by rw [← hrun.1.1]; decide)
      | some array =>
          simp only [harray, Program.run_bind] at hrun
          generalize hbuffers : (allocBuffers pages 0 ringsiz).run (boardWorld env) _ = allocated
            at hrun
          obtain ⟨⟨retBuffers, buffers⟩, board₁⟩ := allocated
          by_cases hfailed : retBuffers < 0
          · simp only [hfailed, if_true, Program.run_bind, Program.run_pure, Prod.mk.injEq] at hrun
            exact absurd hret (by rw [← hrun.1.1]; decide)
          obtain ⟨-, hlength, hallocated, hgrows, -, hacquires⟩ :=
            alloc_buffers_spec env pages 0 ringsiz _ hbuffers (Int.not_lt.mp hfailed)
          simp only [hfailed, if_false, Program.run_bind, run_kzalloc] at hrun
          cases hring : board₁.grant env .kmem with
          | none =>
              simp only [hring, Program.run_bind, Program.run_pure, Prod.mk.injEq] at hrun
              exact absurd hret (by rw [← hrun.1.1]; decide)
          | some ringHandle =>
              simp only [hring, Program.run_bind, init_ptables_value, run_mutex_unlock,
                Program.run_pure, Prod.mk.injEq] at hrun
              have hgrowsRing := board₁.acquire_grows ((some ringHandle).map .kmem)
              have hallocatedRing : BuffersAllocated buffers
                  (board₁.acquire ((some ringHandle).map .kmem)) :=
                ⟨fun dmabuf h => (hallocated.allocated dmabuf h).mono hgrowsRing,
                  hallocated.offset, hallocated.distinct⟩
              refine ⟨config', clk, array, ringHandle, buffers, _, hlength, hallocatedRing,
                ((board.acquire_grows _).trans hgrows).trans hgrowsRing, fun hsame => ?_,
                hrun.1.2.symm, hrun.2.symm⟩
              have harrayNew : board.Acquires (board.acquire (some (.kmem array))) _ :=
                .single (.kmem array) trivial (Board.grant_fresh harray)
              have hringNew : board₁.Acquires (board₁.acquire (some (.kmem ringHandle))) _ :=
                .single (.kmem ringHandle) trivial (Board.grant_fresh hring)
              refine ((harrayNew.trans (hacquires hsame)).trans hringNew).perm ?_
              rw [List.append_cons]
              exact List.perm_append_comm

/-! ## The stream after its initialisation -/

/-- What a stream was equipped with it keeps. -/
theorem Stream.Equipped.transfer {stream stream' : Stream} (h : stream.Equipped)
    (hsame : SameHardware stream stream') : stream'.Equipped where
  port := hsame.portId ▸ h.port
  below := hsame.module ▸ h.below
  ops := hsame.ops.trans h.ops
  length := hsame.buffers ▸ h.length
  offset := by
    unfold Ring.offset
    rw [hsame.buffers]
    exact h.offset
  nonzero := by
    unfold Ring.ptPhys
    rw [hsame.buffers]
    exact h.nonzero
  distinct := by
    unfold Ring.ptPhys
    rw [hsame.buffers]
    exact h.distinct

/-- A ring over allocated buffers names sixteen different page tables. -/
theorem equipped_of_buffers {stream : Stream} {board : Board} {buffers : List Dmabuf}
    (hport : TsPort stream.portId) (hbelow : stream.dtl.module + 0x1000 ≤ Mod.stream)
    (hops : stream.ops = .ts2dtl) (hring : stream.ring.dmabuf = buffers)
    (hlength : buffers.length = ringsiz) (hbuffers : BuffersAllocated buffers board) :
    stream.Equipped := by
  have hget : ∀ i < ringsiz, stream.ring.dmabuf[i]?.getD Dmabuf.zero ∈ buffers ∧
      (buffers.map Dmabuf.ptPhys)[i]? = some (stream.ring.ptPhys i) := by
    intro i h
    have hi : i < buffers.length := hlength ▸ h
    simp [Ring.ptPhys, hring, hi]
  refine ⟨hport, hbelow, hops, hring ▸ hlength, ?_, ?_, ?_⟩
  · intro i hi
    exact hbuffers.offset _ (hget i hi).1
  · intro i hi
    exact (hbuffers.allocated _ (hget i hi).1).nonzero
  · intro i hi j hj heq
    have hi' : i < (buffers.map Dmabuf.ptPhys).length := by
      rw [List.length_map, hlength]
      exact hi
    refine (List.getElem?_inj hi' hbuffers.distinct).mp ?_
    rw [(hget i hi).2, (hget j hj).2, heq]

/-- What a successful initialisation of a transport stream establishes. -/
structure Stream.Fresh (adapType : AdapterType) (count : Nat) (board : Board)
    (stream : Stream) (board' : Board) : Prop where
  number : count < 2
  portId : stream.portId = adapType.tsPort count
  module : stream.dtl.module = adapType.tsModule count
  equipped : stream.Equipped
  params : stream.params = tsParams
  idle : stream.ring.Idle 0
  indexW : stream.indexW = 8 ∨ stream.indexW = 16
  streamRun : stream.dtl.streamRun = false
  allocated : ∀ dmabuf ∈ stream.ring.dmabuf, dmabuf.Allocated board'
  grows : board.Grows board'
  slot : ∀ i < 8, board'.slot (dmach stream.portId) i = stream.ring.ptPhys i
  bStart : ∀ i < 8, board'.bStart stream.dtl.module i = startWord stream.portId i 0 ∨
    board'.bStartWritten stream.dtl.module i = board.bStartWritten stream.dtl.module i
  enabled : board'.enabled stream.dtl.module = true → board.enabled stream.dtl.module = true
  framed : board.Framed (Footprint stream.portId stream.dtl.module) board'

/-- The first two adapters have ports of the engine. -/
theorem ts_port_of_count (adapType : AdapterType) {count : Nat} (hcount : count < 2) :
    TsPort (adapType.tsPort count) := by
  cases adapType <;>
    simp only [TsPort, AdapterType.tsPort, streamPortTs2dDtv0, streamPortTs2dExtern0,
      streamPortTs2dCam] <;> omega

/-- Their engines lie below the stream unit. -/
theorem ts_module_below (adapType : AdapterType) {count : Nat} (hcount : count < 2) :
    adapType.tsModule count + 0x1000 ≤ Mod.stream := by
  cases adapType <;>
    simp only [AdapterType.tsModule, Mod.ts2d0Dtv, Mod.ts2d0Extern, Mod.stream] <;> omega

/-- The slots of an initialised engine survive the closing of the gates. -/
theorem slot_close_gates (board : Board) (port ch : Nat) {i : Nat} (hi : i < 8) :
    ((closeGates port).run (boardWorld env) board).2.slot ch i = board.slot ch i := by
  have honly : (closeGates port).Only (Touches (InModule Mod.stream) []) :=
    only_close_gates port fun _ h => h
  refine slot_frame honly (fun fld h => ?_) board
  exact h.not_in_channel (by decide) (pta_in_channel ch fld hi)

/-- Closing the gates and filling the slot table allocates and releases nothing. -/
theorem live_tabled (port : Nat) (stream : Stream) (board : Board) :
    ((closeGates port).run (boardWorld env)
      ((initPtables stream).run (boardWorld env) board).2).2.live = board.live := by
  have hclose : (closeGates port).Only (Touches (InModule Mod.stream) []) :=
    only_close_gates _ fun _ h => h
  have htable : (initPtables stream).Only (Touches (InChannel (dmach stream.portId)) []) :=
    only_init_ptables fun _ h => h
  rw [live_frame hclose (by simp), live_frame htable (by simp)]

/-- The registers of an engine are neither those of a channel nor those of the gates. -/
theorem Board.Framed.module_kept {board board' : Board} {port module address : Nat}
    (hframed : board.Framed
      (fun address => InChannel (dmach port) address ∨ InModule Mod.stream address) board')
    (hbelow : module + 0x1000 ≤ Mod.stream) (haddress : InModule module address) :
    board'.regs address = board.regs address ∧ board'.written address = board.written address := by
  have hout : ¬ (InChannel (dmach port) address ∨ InModule Mod.stream address) := by
    rintro (hchannel | hstream)
    · exact haddress.not_in_channel (Nat.le_trans hbelow (by decide)) hchannel
    · have habove := hstream.1
      have hinside := haddress.2
      omega
  exact ⟨hframed.regs address hout, hframed.written address hout⟩

/-- The initialised engine, before it is acquired. -/
theorem ts2dtl_init_fresh {config : TsConfig} {adapType : AdapterType} {count pages : Nat}
    {initial : Stream} {board : Board} {engine : Stream} {board' : Board} (hcount : count < 2)
    (hportId : initial.portId = adapType.tsPort count)
    (hmodule : initial.dtl.module = adapType.tsModule count) (hindexW : initial.indexW = 0)
    (hstreamRun : initial.dtl.streamRun = false)
    (hrun : (ts2dtlInit config initial pages).run (boardWorld env) board =
      ((0, engine), board')) :
    ({ engine with params := tsParams } : Stream).Fresh adapType count board board' ∧
      engine.indexW = 8 := by
  have hport : TsPort initial.portId := hportId ▸ ts_port_of_count adapType hcount
  have hbelow : initial.dtl.module + 0x1000 ≤ Mod.stream :=
    hmodule ▸ ts_module_below adapType hcount
  have hframed : board.Framed (fun address =>
      InChannel (dmach initial.portId) address ∨ InModule Mod.stream address) board' := by
    have honly := framed_of_only env
      (only_ts2dtl_init config initial pages fun _ h => h) board
    rwa [hrun] at honly
  -- The registers of the engine itself are not written yet.
  have hoff : ∀ address, InModule initial.dtl.module address →
      board'.regs address = board.regs address ∧ board'.written address = board.written address :=
    fun address haddress => hframed.module_kept hbelow haddress
  obtain ⟨config', clk, array, ringHandle, buffers, board₁, hlength, hbuffers, hgrows, -, hengine,
    hboard⟩ := ts2dtl_init_run env config initial pages board hrun rfl
  have hlive : board'.live = board₁.live := by
    rw [hboard]
    exact live_tabled env _ _ board₁
  have hsame : ∀ i < 8, board'.slot (dmach initial.portId) i =
      (ringInit buffers ringsiz).ptPhys i := by
    intro i hi
    rw [hboard, slot_close_gates env _ _ _ hi]
    exact slot_init_ptables env _ _ hi
  have hindex : engine.indexW = 8 := by
    rw [hengine]
    show (initial.indexW + 8).bmod (2 ^ 32) = 8
    rw [hindexW]
    decide
  have henabled : board'.enabled initial.dtl.module = board.enabled initial.dtl.module := by
    unfold Board.enabled
    rw [(hoff _ ⟨Nat.le_add_right _ _, by simp [s2dS2dCtrl]⟩).1]
  subst hengine
  refine ⟨?_, hindex⟩
  exact
    { number := hcount
      portId := hportId
      module := hmodule
      equipped := equipped_of_buffers hport hbelow rfl rfl hlength hbuffers
      params := rfl
      idle := ring_init_idle buffers
      indexW := Or.inl hindex
      streamRun := hstreamRun
      allocated := fun dmabuf h => (hbuffers.allocated dmabuf h).mono (Board.Grows.of_live hlive)
      grows := hgrows.trans (Board.Grows.of_live hlive)
      slot := hsame
      bStart := fun i hi => Or.inr (hoff _ (b_start_in_module _ hi)).2
      enabled := fun h => henabled ▸ h
      framed := hframed.mono fun address h => Or.inr h }

/-- Either the slot table is rewritten with the same buffers, or nothing happens. -/
theorem Stream.Fresh.acquire_registers {adapType : AdapterType} {count : Nat} {stream : Stream}
    {board board₁ board₂ : Board} (h : stream.Fresh adapType count board board₁)
    (hrun : ((ts2dtlAcquire stream).run (boardWorld env) board₁).2 = board₂) :
    (∀ i < 8, board₂.slot (dmach stream.portId) i = stream.ring.ptPhys i) ∧
      (∀ i < 8, board₂.bStart stream.dtl.module i = startWord stream.portId i 0 ∨
        board₂.bStartWritten stream.dtl.module i = board.bStartWritten stream.dtl.module i) ∧
      (board₂.enabled stream.dtl.module = true → board.enabled stream.dtl.module = true) := by
  have hvalid : stream.params.valid = true := h.params ▸ ts_params_valid
  subst hrun
  by_cases hclock : stream.Clockable env
  · have hprograms : stream.Programs env :=
      ⟨hvalid, h.params ▸ rfl, h.equipped.eight_buffers, h.equipped.below_mmu, hclock,
        h.equipped.port⟩
    refine ⟨fun i hi => slot_acquire env board₁ hprograms hi, fun i hi => Or.inl ?_, ?_⟩
    · rw [b_start_acquire env board₁ hprograms hi,
        h.equipped.offset i (Nat.lt_trans hi (by decide))]
    · rw [enabled_acquire env board₁ hprograms]
      exact fun hfalse => Bool.noConfusion hfalse
  · rw [acquire_refused env board₁ hvalid fun hboth => hclock hboth.1]
    exact ⟨h.slot, h.bStart, h.enabled⟩

/-- An acquire keeps a fresh stream fresh. -/
theorem acquire_fresh {adapType : AdapterType} {count : Nat} {stream : Stream}
    {board board₁ : Board} (h : stream.Fresh adapType count board board₁)
    (hindex : stream.indexW = 8) :
    ({ stream.acquired env with init := true } : Stream).Fresh adapType count board
      ((ts2dtlAcquire stream).run (boardWorld env) board₁).2 := by
  have hvalid : stream.params.valid = true := h.params ▸ ts_params_valid
  have htype : stream.params.type = .ts := h.params ▸ rfl
  have hlength := h.equipped.eight_buffers
  have hsame : SameHardware stream ((ts2dtlAcquire stream).run (boardWorld env) board₁).1.2 :=
    acquire_yields.run (boardWorld env) board₁
  rw [acquire_value env board₁ hvalid htype hlength] at hsame
  have honly : ∀ R, (ts2dtlAcquire stream).Only
      (Touches (Footprint stream.portId stream.dtl.module) R) :=
    fun R => only_acquire (Or.inl hlength) fun _ h => h
  have hframed := h.framed.trans (framed_of_only env (honly _) board₁)
  have hlive : ((ts2dtlAcquire stream).run (boardWorld env) board₁).2.live = board₁.live :=
    live_frame (honly []) (by simp) board₁
  have hinit : SameHardware stream { stream.acquired env with init := true } :=
    ⟨hsame.module, hsame.portId, hsame.buffers, hsame.params, hsame.ops, hsame.handle, hsame.array,
      hsame.ringHandle⟩
  obtain ⟨hslot, hstart, henabled⟩ := h.acquire_registers env rfl
  have hindexW : (stream.acquired env).indexW = 8 ∨ (stream.acquired env).indexW = 16 := by
    rw [acquired_index_w env h.equipped.port, hindex]
    split
    · exact Or.inr (by decide)
    · exact Or.inl rfl
  exact
    { number := h.number
      portId := hinit.portId.trans h.portId
      module := hinit.module.trans h.module
      equipped := h.equipped.transfer hinit
      params := hinit.params.trans h.params
      idle := by
        show (stream.acquired env).ring.Idle 0
        rw [acquired_ring]
        exact h.idle
      indexW := hindexW
      streamRun := by
        show (stream.acquired env).dtl.streamRun = false
        unfold Stream.acquired
        split_ifs <;> exact h.streamRun
      allocated := fun dmabuf hmem =>
        (h.allocated dmabuf (hinit.buffers ▸ hmem)).mono (Board.Grows.of_live hlive)
      grows := h.grows.trans (Board.Grows.of_live hlive)
      slot := by
        intro i hi
        rw [hinit.portId, hinit.pt_phys]
        exact hslot i hi
      bStart := by
        rw [hinit.portId, hinit.module]
        exact hstart
      enabled := by
        rw [hinit.module]
        exact henabled
      framed := by
        rw [hinit.portId, hinit.module]
        exact hframed }

/-- The request for the stream itself changes nothing else on the board. -/
theorem Stream.Fresh.of_acquire {adapType : AdapterType} {count : Nat} {stream : Stream}
    {board board' : Board} {resource : Option Resource}
    (h : stream.Fresh adapType count (board.acquire resource) board') :
    stream.Fresh adapType count board board' :=
  { h with
    grows := (board.acquire_grows resource).trans h.grows
    bStart := h.bStart
    enabled := h.enabled
    framed := ⟨h.framed.regs, h.framed.written, h.framed.overruns, h.framed.delivered, h.framed.calls⟩ }

/-- A successful initialisation of a transport stream makes it fresh. -/
theorem stream_init_fresh {config : TsConfig} {adapType : AdapterType} {count pages : Nat}
    {board : Board} {stream : Stream} {board' : Board}
    (hrun : (streamInit config .digitalCapture adapType count pages).run (boardWorld env) board =
      (some stream, board')) : stream.Fresh adapType count board board' := by
  simp only [streamInit, Program.run_bind, run_kzalloc] at hrun
  cases hhandle : board.grant env .kmem with
  | none => simp [hhandle] at hrun
  | some handle =>
      simp only [hhandle, streamInitDigital, Program.run_ite, Program.run_bind,
        Program.run_pure] at hrun
      by_cases hcount : 2 ≤ count
      · simp [hcount] at hrun
      rw [if_neg hcount] at hrun
      generalize hinit : (ts2dtlInit config _ pages).run (boardWorld env) _ = init at hrun
      obtain ⟨⟨ret, engine⟩, board₂⟩ := init
      by_cases hret : ret ≠ 0
      · simp [hret] at hrun
      rw [not_not] at hret
      subst hret
      obtain ⟨hfresh, hindex⟩ := ts2dtl_init_fresh env (Nat.not_le.mp hcount) rfl rfl rfl rfl hinit
      have hvalid : ({ engine with params := tsParams } : Stream).params.valid = true :=
        ts_params_valid
      have hvalue := acquire_value env board₂ hvalid rfl hfresh.equipped.eight_buffers
      simp [hvalue] at hrun
      obtain ⟨rfl, rfl⟩ := hrun
      exact (acquire_fresh env hfresh hindex).of_acquire

end Init

/-- The first external transport stream, initialised on a cleared board where every request
is granted. -/
def plainInit : Option Stream × Board :=
  (streamInit ⟨0, 0, 0, 0⟩ .digitalCapture .external 0 tsPages188).run (boardWorld .plain) .reset

/-- The plain initialisation succeeds. -/
theorem plain_init_some : plainInit.1.isSome = true := by
  decide +kernel

/-- Its stream and its board. -/
theorem plain_init : ∃ stream, plainInit = (some stream, plainInit.2) := by
  obtain ⟨stream, hstream⟩ := Option.isSome_iff_exists.mp plain_init_some
  refine ⟨stream, ?_⟩
  rw [← hstream]

/-- The stream is fresh. -/
theorem plain_init_fresh {stream : Stream} (hinit : plainInit = (some stream, plainInit.2)) :
    stream.Fresh .external 0 .reset plainInit.2 :=
  stream_init_fresh .plain hinit

/-! ## Exit -/

/-- Freeing the buffers releases only. -/
theorem only_free_buffers (buffers : List Dmabuf) : (freeBuffers buffers).Only Releases := by
  induction buffers with
  | nil => trivial
  | cons dmabuf rest ih =>
      refine Program.Only.bind (only_dmabuf_free dmabuf) fun _ => ?_
      exact Program.Only.bind ih fun _ => trivial

/-- So does the exit of the stream. -/
theorem only_stream_exit (stream : Stream) : (streamExit stream).Only Releases := by
  unfold streamExit
  cases stream.ops with
  | unset => trivial
  | ts2dtl =>
      refine Program.Only.bind ?_ fun _ => only_release _
      refine Program.Only.bind (only_free_buffers _) fun _ => ?_
      refine Program.Only.bind (only_release _) fun _ => ?_
      exact Program.Only.bind (only_release _) fun _ => trivial

section Exit

variable (env : Environment)

/-- The mapping of a buffer that was freed is dead. -/
theorem free_buffers_dead {buffers : List Dmabuf} {dmabuf : Dmabuf} (hmem : dmabuf ∈ buffers)
    (hnonzero : dmabuf.ptPhys ≠ 0) (board : Board) :
    ((freeBuffers buffers).run (boardWorld env) board).2.live (.single dmabuf.ptPhys) = false := by
  induction buffers generalizing board with
  | nil => exact absurd hmem List.not_mem_nil
  | cons first rest ih =>
      simp only [freeBuffers, Program.run_bind, Program.run_pure]
      rcases List.mem_cons.mp hmem with rfl | hrest
      · exact dead_frame env (only_free_buffers rest) (dmabuf_free_dead env board dmabuf hnonzero)
      · exact ih hrest _

/-- Leaving a stream releases the page table of every buffer. -/
theorem stream_exit_dead {stream : Stream} (h : stream.Equipped) (board : Board) {i : Nat}
    (hi : i < ringsiz) :
    ((streamExit stream).run (boardWorld env) board).2.live (.single (stream.ring.ptPhys i)) =
      false := by
  have hlength : i < stream.ring.dmabuf.length := h.length ▸ hi
  have hmem : stream.ring.dmabuf[i]?.getD Dmabuf.zero ∈ stream.ring.dmabuf.take ringsiz := by
    rw [← h.length, List.take_length]
    simp [hlength]
  unfold streamExit
  rw [h.ops]
  simp only [ts2dtlExit, Program.run_bind, Program.run_pure]
  refine dead_frame env (only_release _) (dead_frame env (only_release _) ?_)
  refine dead_frame env (only_release _) ?_
  exact free_buffers_dead env hmem (h.nonzero i hi) board

end Exit

end Saa7231
