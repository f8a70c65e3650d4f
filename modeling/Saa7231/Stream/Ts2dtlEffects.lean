import Saa7231.Hardware.Frame
import Saa7231.Stream.Ts2dtl
import Mathlib.Data.List.Basic
import Mathlib.Tactic.IntervalCases

/-!
# What programming a stream does to the board

One specification for each operation of the engine: which registers it can write, what it
returns, and what it leaves in the page-table slots and the start addresses.
`acquire_value` and `slot_acquire` are the results used above: an acquire that reaches
`saa7231_init_ptables` puts the first eight buffers into the slots, any other acquire leaves
the board alone (`acquire_refused`).
-/

namespace Saa7231

open Interaction Bus

/-- The ports that `saa7231_ts2dtl_setparams` accepts. -/
def TsPort (port : Nat) : Prop := streamPortTs2dDtv0 ≤ port ∧ port ≤ streamPortTs2dCam

instance (port : Nat) : Decidable (TsPort port) := inferInstanceAs (Decidable (_ ∧ _))

/-- The switch over the port has a case for each port that is accepted. -/
theorem ts_port_cases {port : Nat} :
    TsPort port ↔ port = streamPortTs2dDtv0 ∨ port = streamPortTs2dDtv1 ∨
      port = streamPortTs2dExtern0 ∨ port = streamPortTs2dExtern1 ∨ port = streamPortTs2dCam := by
  simp only [TsPort, streamPortTs2dDtv0, streamPortTs2dDtv1, streamPortTs2dExtern0,
    streamPortTs2dExtern1, streamPortTs2dCam]
  omega

/-- The registers that programming a stream writes. -/
def Footprint (port module address : Nat) : Prop :=
  InModule module address ∨ InChannel (dmach port) address ∨ InModule Mod.stream address

/-- The registers that belong to one engine: its module and its MMU channel. -/
def EngineRegs (port module address : Nat) : Prop :=
  InModule module address ∨ InChannel (dmach port) address

/-- The engine's own registers are within the footprint of the stream. -/
theorem EngineRegs.footprint {port module address : Nat} (h : EngineRegs port module address) :
    Footprint port module address := h.imp_right Or.inl

/-- The two halves of an address make up the address. -/
theorem addr_msb_append_lsb (address : BitVec 64) :
    addrMsb address ++ addrLsb address = address := by
  unfold addrMsb addrLsb
  ext i hi
  simp
  grind

/-! ## What the operations leave of the stream -/

/-- The two streams drive the same engine over the same buffers. -/
structure SameHardware (stream stream' : Stream) : Prop where
  module : stream'.dtl.module = stream.dtl.module
  portId : stream'.portId = stream.portId
  buffers : stream'.ring.dmabuf = stream.ring.dmabuf
  params : stream'.params = stream.params
  ops : stream'.ops = stream.ops
  handle : stream'.handle = stream.handle
  array : stream'.array = stream.array
  ringHandle : stream'.ringHandle = stream.ringHandle

/-- A stream drives the same hardware as itself. -/
theorem SameHardware.refl (stream : Stream) : SameHardware stream stream :=
  ⟨rfl, rfl, rfl, rfl, rfl, rfl, rfl, rfl⟩

@[simp] theorem same_hardware_dtl (stream : Stream) (indexW : Int) (dtl : Dtl) :
    SameHardware stream { stream with indexW := indexW, dtl := dtl } ↔
      dtl.module = stream.dtl.module :=
  ⟨fun h => h.module, fun h => ⟨h, rfl, rfl, rfl, rfl, rfl, rfl, rfl⟩⟩

/-- The relation composes. -/
theorem SameHardware.trans {stream stream' stream'' : Stream} (h : SameHardware stream stream')
    (h' : SameHardware stream' stream'') : SameHardware stream stream'' :=
  ⟨h'.module.trans h.module, h'.portId.trans h.portId, h'.buffers.trans h.buffers,
    h'.params.trans h.params, h'.ops.trans h.ops, h'.handle.trans h.handle,
    h'.array.trans h.array, h'.ringHandle.trans h.ringHandle⟩

/-- The stream after `saa7231_init_ptables`. -/
def Stream.tabled (stream : Stream) : Stream :=
  { stream with indexW := (stream.indexW + 8).bmod (2 ^ 32) }

/-- The stream after its clock was activated. -/
def Stream.clocked (stream : Stream) : Stream :=
  { stream with dtl := { stream.dtl with clockRun := true } }

/-- The stream after `saa7231_ts2dtl_run_prepare`. -/
def Stream.prepared (stream : Stream) : Stream :=
  { stream with dtl := { stream.dtl with addrPrev := 0xffffff } }

/-- The page tables of the buffers stay where they are. -/
theorem SameHardware.pt_phys {stream stream' : Stream} (h : SameHardware stream stream')
    (i : Nat) : stream'.ring.ptPhys i = stream.ring.ptPhys i := by
  unfold Ring.ptPhys
  rw [h.buffers]

/-- The fill of the slot table is recorded in the stream. -/
theorem init_ptables_yields {stream : Stream} :
    (initPtables stream).Yields (· = stream.tabled) := by
  simp [initPtables, wrPta, Stream.tabled]

/-- The clock is recorded, and nothing of the hardware changes hands. -/
theorem ensure_clock_yields {stream : Stream} :
    (ts2dtlEnsureClock stream).Yields fun result => SameHardware stream result.2 := by
  simp only [ts2dtlEnsureClock, Program.yields_ite, Program.yields_bind, Program.yields_pure]
  refine ⟨fun _ => .refl stream, fun _ => Program.Yields.of_forall fun ret => ?_⟩
  exact ⟨fun _ => .refl stream, fun _ => (same_hardware_dtl ..).mpr rfl⟩

/-- The set-up of the engine keeps the stream's hardware. -/
theorem setparams_yields {stream : Stream} :
    (ts2dtlSetparams stream).Yields fun result => SameHardware stream result.2 := by
  have htabled : SameHardware stream stream.tabled := (same_hardware_dtl ..).mpr rfl
  simp only [ts2dtlSetparams, Program.yields_bind, Program.yields_ite, Program.yields_pure,
    yields_wr, yields_rd]
  refine Program.Yields.of_forall fun valid => ⟨fun _ => .refl stream, fun _ => ?_⟩
  refine init_ptables_yields.mono ?_
  rintro _ rfl
  exact fun _ => ⟨fun _ => htabled, fun _ => Program.Yields.of_forall fun _ => htabled⟩

/-- So does the preparation of a run. -/
theorem run_prepare_yields {stream : Stream} :
    (ts2dtlRunPrepare stream).Yields fun result => SameHardware stream result.2 := by
  have hprepared : SameHardware stream stream.prepared := (same_hardware_dtl ..).mpr rfl
  simp only [ts2dtlRunPrepare, Program.yields_bind, Program.yields_ite, Program.yields_pure,
    yields_wr, yields_rd]
  refine Program.Yields.of_forall fun _ => Program.Yields.of_forall fun _ => ?_
  exact fun _ => Program.Yields.of_forall fun _ => ⟨fun _ => hprepared, fun _ => hprepared⟩

/-- An acquire leaves the hardware side of the stream as it was. -/
theorem acquire_yields {stream : Stream} :
    (ts2dtlAcquire stream).Yields fun result => SameHardware stream result.2 := by
  have hlocked :
      (ts2dtlAcquireLocked stream).Yields fun result => SameHardware stream result.2 := by
    simp only [ts2dtlAcquireLocked, Program.yields_bind, Program.yields_ite, Program.yields_pure]
    refine ensure_clock_yields.mono fun clocked hclocked => ⟨fun _ => hclocked, fun _ => ?_⟩
    refine setparams_yields.mono fun programmed hprogrammed => ?_
    refine ⟨fun _ => hclocked.trans hprogrammed, fun _ => ?_⟩
    refine run_prepare_yields.mono fun prepared hprepared => ?_
    have hall := hclocked.trans (hprogrammed.trans hprepared)
    exact ⟨fun _ => hall, fun _ => hall⟩
  simp only [ts2dtlAcquire, Program.yields_bind, Program.yields_ite, Program.yields_pure]
  refine ⟨fun _ => Program.Yields.of_forall fun _ => .refl stream, fun _ => ?_⟩
  refine Program.Yields.of_forall fun _ => hlocked.mono fun result hresult => ?_
  exact Program.Yields.of_forall fun _ => hresult

/-- Every acquire reports success. -/
theorem acquire_reports_success (stream : Stream) :
    (ts2dtlAcquire stream).Yields fun result => result.1 = 0 := by
  simp only [ts2dtlAcquire, Program.yields_bind, Program.yields_ite, Program.yields_pure]
  refine ⟨fun _ => Program.Yields.of_forall fun _ => trivial, fun _ => ?_⟩
  refine Program.Yields.of_forall fun _ => Program.Yields.of_forall fun _ => ?_
  exact Program.Yields.of_forall fun _ => trivial

/-! ## The registers each operation can write -/

section Only

variable {stream : Stream} {A : Nat → Prop} {E : BoardOp → Prop} {R : List Record}

/-- The clock is requested from the clock unit. -/
theorem only_ensure_clock (hclocks : ∀ mode port, E (.activateClocks mode port)) :
    (ts2dtlEnsureClock stream).Only (WritesIn A E) := by
  simp [ts2dtlEnsureClock, hclocks]

/-- An entry of the slot table is written in the registers of its channel. -/
theorem only_wr_pta {ch i : Nat} {phys : BitVec 64} (hi : i < 8)
    (hA : ∀ address, InChannel ch address → A address) :
    (wrPta ch i phys).Only (WritesIn A E) := by
  simp only [wrPta, only_wr_bind, only_wr]
  exact ⟨hA _ (pta_in_channel ch .lsb hi), hA _ (pta_in_channel ch .msb hi)⟩

/-- The modules lie below the MMU. -/
theorem InModule.not_in_channel {module ch address : Nat} (h : InModule module address)
    (hbelow : module + 0x1000 ≤ Mod.mmu) : ¬ InChannel ch address := by
  have habove := h.2
  unfold InChannel
  omega

/-- The start-address registers belong to the engine. -/
theorem b_start_in_module (module : Nat) {i : Nat} (hi : i < 8) :
    InModule module (module + s2dChxBStartAddress i 0) := by
  refine ⟨Nat.le_add_right _ _, ?_⟩
  simp only [s2dChxBStartAddress, s2dChxBase, s2dBStart]
  split_ifs <;> omega

/-- Different blocks have different start-address registers. -/
theorem b_start_injective {i j : Nat} (hi : i < 8) (hj : j < 8)
    (heq : s2dChxBStartAddress i 0 = s2dChxBStartAddress j 0) : i = j := by
  simp only [s2dChxBStartAddress, s2dChxBase, s2dBStart] at heq
  split_ifs at heq <;> omega

/-- A start address is read from the ring unless the index is behind its end. -/
theorem only_wr_b_start {buf i : Nat} (hA : A (stream.dtl.module + s2dChxBStartAddress i 0))
    (hread : buf + i < stream.ring.dmabuf.length ∨ ∀ index, E (.beyondArray index)) :
    (wrBStart stream buf i).Only (WritesIn A E) := by
  unfold wrBStart dmaaddr pta
  split
  next => simpa using hA
  next hnone =>
      have hbeyond : ∀ index, E (.beyondArray index) := hread.resolve_left (by simpa using hnone)
      simp [hbeyond, hA]

/-- The fill of the slot table stays within the channel. -/
theorem only_init_ptables (hA : ∀ address, InChannel (dmach stream.portId) address → A address) :
    (initPtables stream).Only (WritesIn A E) := by
  have hpta : ∀ i < 8, ∀ phys, (wrPta (dmach stream.portId) i phys).Only (WritesIn A E) :=
    fun i hi phys => only_wr_pta hi hA
  unfold initPtables
  simp only [only_wr_bind]
  refine ⟨hA _ (Or.inl rfl), ?_⟩
  repeat' refine Program.Only.bind (hpta _ (by decide) _) fun _ => ?_
  exact Program.only_pure _

/-- The gates are registers of the stream unit. -/
theorem only_open_gates (hA : ∀ address, InModule Mod.stream address → A address) :
    (ts2dtlOpenGates stream).Only (WritesIn A E) := by
  have hgate : ∀ offset < 0x1000, A (Mod.stream + offset) := fun offset h =>
    hA _ ⟨by omega, by omega⟩
  unfold ts2dtlOpenGates
  simp only [Program.only_ite, only_wr_bind, Program.only_pure]
  refine ⟨?_, fun _ => ⟨?_, fun _ => ⟨?_, fun _ => ⟨?_, fun _ => ⟨?_, ?_⟩⟩⟩⟩⟩
  all_goals
    intro _
    simp [hgate, streamRaTs0LocClgate, streamRaTs1LocClgate, streamRaTs0ExtClgate,
      streamRaPs2p0ExtCfg, streamRaTs1ExtClgate, streamRaPs2p1ExtCfg, streamRaTscaExtClgate,
      streamRaPs2pCaExtCfg, streamRaTsmuxClgate, streamRaTsOutConfig, streamRaTsSel]

/-- The set-up of the engine writes its own registers, and may read behind the array of buffers. -/
theorem only_setup_module (hread : 8 ≤ stream.ring.dmabuf.length ∨ ∀ index, E (.beyondArray index))
    (hA : ∀ address, InModule stream.dtl.module address → A address) :
    (ts2dtlSetupModule stream).Only (WritesIn A E) := by
  have hreg : ∀ offset < 0x1000, A (stream.dtl.module + offset) := fun offset h =>
    hA _ ⟨by omega, by omega⟩
  have hstart : ∀ i < 8, (wrBStart stream 0 i).Only (WritesIn A E) := fun i hi =>
    only_wr_b_start (hA _ (b_start_in_module _ hi)) (hread.imp_left fun h => by omega)
  unfold ts2dtlSetupModule
  simp only [only_wr_bind]
  -- The plain registers come in groups, parted by the start addresses of the first blocks.
  refine ⟨hreg _ (by decide), hreg _ (by decide), hreg _ (by decide), hreg _ (by decide),
    hreg _ (by decide), ?_⟩
  refine Program.Only.bind (hstart 0 (by decide)) fun _ => ?_
  simp only [only_wr_bind]
  refine ⟨hreg _ (by decide), hreg _ (by decide), hreg _ (by decide), hreg _ (by decide),
    hreg _ (by decide), ?_⟩
  refine Program.Only.bind (hstart 1 (by decide)) fun _ => ?_
  simp only [only_wr_bind]
  refine ⟨hreg _ (by decide), hreg _ (by decide), hreg _ (by decide), hreg _ (by decide), ?_⟩
  repeat' refine Program.Only.bind (hstart _ (by decide)) fun _ => ?_
  exact (only_wr _ _).mpr (hreg _ (by decide))

/-- All of the set-up together. -/
theorem only_setparams (hread : 8 ≤ stream.ring.dmabuf.length ∨ ∀ index, E (.beyondArray index))
    (hA : ∀ address, Footprint stream.portId stream.dtl.module address → A address) :
    (ts2dtlSetparams stream).Only (WritesIn A E) := by
  have hmodule : ∀ address, InModule stream.dtl.module address → A address :=
    fun address h => hA address (Or.inl h)
  have hchannel : ∀ address, InChannel (dmach stream.portId) address → A address :=
    fun address h => hA address (Or.inr (Or.inl h))
  have hstream : ∀ address, InModule Mod.stream address → A address :=
    fun address h => hA address (Or.inr (Or.inr h))
  unfold ts2dtlSetparams
  refine Program.Only.bind (only_open_gates hstream) fun valid => ?_
  simp only [Program.only_ite, only_wr_bind]
  refine ⟨fun _ => trivial, fun _ => ⟨hmodule _ ⟨by omega, by simp [s2dSwRst]⟩, ?_⟩⟩
  refine Program.Only.bind_yields (only_init_ptables hchannel) init_ptables_yields ?_
  rintro _ rfl
  simp only [only_rd_bind, Program.only_ite]
  intro _
  refine ⟨fun _ => trivial, fun _ => ?_⟩
  exact Program.Only.bind (only_setup_module hread hmodule) fun _ => trivial

/-- The poll for the preload writes nothing. -/
theorem only_poll_preload (ch delay : Nat) : (pollPreload ch delay).Only (WritesIn A E) := by
  induction delay with
  | zero => trivial
  | succ delay ih =>
      simp only [pollPreload, only_delay_bind, only_rd_bind, Program.only_ite]
      exact fun _ => ⟨fun _ => trivial, fun _ => ih⟩

/-- The preparation of a run rewrites two start addresses and the DMA configuration. -/
theorem only_run_prepare (hread : 8 ≤ stream.ring.dmabuf.length ∨ ∀ index, E (.beyondArray index))
    (hA : ∀ address, InModule stream.dtl.module address → A address)
    (hconfig : A (Mod.mmu + mmuDmaConfig (dmach stream.portId))) :
    (ts2dtlRunPrepare stream).Only (WritesIn A E) := by
  have hstart : ∀ i < 8, (wrBStart stream 0 i).Only (WritesIn A E) := fun i hi =>
    only_wr_b_start (hA _ (b_start_in_module _ hi)) (hread.imp_left fun h => by omega)
  unfold ts2dtlRunPrepare
  refine Program.Only.bind (hstart 0 (by decide)) fun _ => ?_
  refine Program.Only.bind (hstart 1 (by decide)) fun _ => ?_
  simp only [only_rd_bind, only_wr_bind]
  refine fun _ => ⟨hconfig, hconfig, ?_⟩
  refine Program.Only.bind (only_poll_preload _ _) fun _ => ?_
  simp only [Program.only_ite]
  exact ⟨fun _ => trivial, fun _ => trivial⟩

/-- The part of an acquire under the mutex writes the registers of its stream only. From a ring of
eight buffers it reads no offset behind the end. -/
theorem only_acquire_locked (hclocks : ∀ mode port, E (.activateClocks mode port))
    (hread : 8 ≤ stream.ring.dmabuf.length ∨ ∀ index, E (.beyondArray index))
    (hA : ∀ address, Footprint stream.portId stream.dtl.module address → A address) :
    (ts2dtlAcquireLocked stream).Only (WritesIn A E) := by
  unfold ts2dtlAcquireLocked
  refine Program.Only.bind_yields (only_ensure_clock hclocks) ensure_clock_yields ?_
  rintro ⟨ret, clocked⟩ hclocked
  simp only [Program.only_ite]
  refine ⟨fun _ => trivial, fun _ => ?_⟩
  -- Every step hands the next one a stream that drives the same hardware.
  have hread' : 8 ≤ clocked.ring.dmabuf.length ∨ ∀ index, E (.beyondArray index) :=
    hclocked.buffers ▸ hread
  have hA' : ∀ address, Footprint clocked.portId clocked.dtl.module address → A address := by
    rw [hclocked.portId, hclocked.module]
    exact hA
  refine Program.Only.bind_yields (only_setparams hread' hA') setparams_yields ?_
  rintro ⟨ret, programmed⟩ hprogrammed
  simp only [Program.only_ite]
  refine ⟨fun _ => trivial, fun _ => ?_⟩
  refine Program.Only.bind (only_run_prepare (hprogrammed.buffers ▸ hread') ?_ ?_) fun _ => ?_
  · exact fun address h => hA' address (Or.inl (hprogrammed.module ▸ h))
  · rw [hprogrammed.portId]
    exact hA' _ (Or.inr (Or.inl (Or.inl rfl)))
  · simp only [Program.only_ite]
    exact ⟨fun _ => trivial, fun _ => trivial⟩

/-- A read behind the array is recorded as an overrun. -/
theorem touches_beyond_array (hR : Record.overruns ∈ R) :
    ∀ index, ∀ record ∈ (BoardOp.beyondArray index).record, record ∈ R := by
  simp [BoardOp.record, hR]

/-- An acquire stays within the footprint of its stream. -/
theorem only_acquire (hread : 8 ≤ stream.ring.dmabuf.length ∨ Record.overruns ∈ R)
    (hA : ∀ address, Footprint stream.portId stream.dtl.module address → A address) :
    (ts2dtlAcquire stream).Only (Touches A R) := by
  unfold ts2dtlAcquire
  simp only [Program.only_ite, only_mutex_lock_bind, only_mutex_unlock_bind]
  refine ⟨fun _ => ⟨by simp [BoardOp.record], fun _ => trivial⟩,
    fun _ => ⟨by simp [BoardOp.record], fun _ => ?_⟩⟩
  refine Program.Only.bind (only_acquire_locked (by simp [BoardOp.record])
    (hread.imp_right touches_beyond_array) hA) fun _ => ?_
  simp only [only_mutex_unlock_bind]
  exact ⟨by simp [BoardOp.record], fun _ => trivial⟩

end Only

section Run

variable (env : Environment) (stream : Stream) (board : Board)

/-! ## The values the operations return -/

/-- The gates open for the known ports. -/
theorem open_gates_value :
    ((ts2dtlOpenGates stream).run (boardWorld env) board).1 = decide (TsPort stream.portId) := by
  simp only [ts2dtlOpenGates, ts_port_cases]
  split_ifs
  all_goals simp [*]

/-- A port without gates is left alone. -/
theorem open_gates_refused (hport : ¬ TsPort stream.portId) :
    (ts2dtlOpenGates stream).run (boardWorld env) board = (false, board) := by
  simp only [ts_port_cases, not_or] at hport
  obtain ⟨h0, h1, h2, h3, h4⟩ := hport
  simp only [ts2dtlOpenGates, h0, h1, h2, h3, h4, if_false, Program.run_pure]

/-- The value of the fill is the stream with its table filled. -/
theorem init_ptables_value :
    ((initPtables stream).run (boardWorld env) board).1 = stream.tabled := by
  simp [initPtables, Stream.tabled]

/-! ## The page-table slots -/

/-- An entry names its address, and the others keep theirs. -/
theorem slot_wr_pta {ch i j : Nat} (phys : BitVec 64) (hi : i < 8) :
    ((wrPta ch i phys).run (boardWorld env) board).2.slot ch j =
      if j = i then phys else board.slot ch j := by
  by_cases hij : j = i
  · subst hij
    have hne : Mod.mmu + mmuPta .lsb j ch ≠ Mod.mmu + mmuPta .msb j ch := by
      simp [mmuPta, PtaFld.offset]
    have hwords : ((wrPta ch j phys).run (boardWorld env) board).2.slot ch j =
        addrMsb phys ++ addrLsb phys := by
      simp [wrPta, Board.slot, Board.write, Function.update_of_ne hne]
    rw [hwords, addr_msb_append_lsb, if_pos rfl]
  · -- The halves of different slots lie at different addresses.
    have hne : ∀ fld fld', Mod.mmu + mmuPta fld j ch ≠ Mod.mmu + mmuPta fld' i ch := by
      intro fld fld'
      cases fld <;> cases fld' <;> simp only [mmuPta, PtaFld.offset] <;> omega
    rw [if_neg hij]
    simp [wrPta, Board.slot, Board.write, Function.update_of_ne (hne _ _)]

/-- `saa7231_init_ptables` puts buffer `i` into slot `i`. -/
theorem slot_init_ptables {i : Nat} (hi : i < 8) :
    ((initPtables stream).run (boardWorld env) board).2.slot (dmach stream.portId) i =
      stream.ring.ptPhys i := by
  simp only [initPtables, Program.run_bind, Program.run_pure, slot_wr_pta, Nat.reduceLT]
  -- One of the eight writes goes to slot `i`, and none of the later ones does.
  split_ifs with h7 h6 h5 h4 h3 h2 h1 h0
  all_goals first | omega | (subst_vars; rfl)

/-! ## The start addresses -/

/-- The page offset of buffer `i`. -/
def Ring.offset (ring : Ring Dmabuf) (i : Nat) : BitVec 32 :=
  (ring.dmabuf[i]?.getD Dmabuf.zero).offset

/-- The word of slot `i` of a port for a buffer at a page offset. -/
def startWord (port i : Nat) (offset : BitVec 32) : BitVec 32 :=
  BitVec.ofNat 32 i <<< 26 ||| BitVec.ofNat 32 (port + 1) <<< 21 ||| offset

/-- An element inside the buffer array gives its own offset. -/
theorem run_wr_b_start {buf i : Nat} (hread : buf + i < stream.ring.dmabuf.length) :
    (wrBStart stream buf i).run (boardWorld env) board =
      ((), board.write (startWord stream.portId i (stream.ring.offset (buf + i)))
        (stream.dtl.module + s2dChxBStartAddress i 0)) := by
  unfold wrBStart dmaaddr pta
  simp [hread, tcmask, bufmask, dmamask, dmach, startWord, Ring.offset]

/-- An element behind the end of the array is read all the same. -/
theorem overruns_wr_b_start {buf i : Nat} (hread : stream.ring.dmabuf.length ≤ buf + i) :
    ((wrBStart stream buf i).run (boardWorld env) board).2.overruns =
      (buf + i) :: board.overruns := by
  unfold wrBStart dmaaddr pta
  simp [List.getElem?_eq_none hread, Board.write]

/-- The word of block `i` for buffer `i` of a ring of at least eight. -/
theorem run_wr_initial (hlength : 8 ≤ stream.ring.dmabuf.length) {i : Nat} (hi : i < 8) :
    (wrBStart stream 0 i).run (boardWorld env) board =
      ((), board.write (startWord stream.portId i (stream.ring.offset i))
        (stream.dtl.module + s2dChxBStartAddress i 0)) := by
  have hread : 0 + i < stream.ring.dmabuf.length := by omega
  simpa using run_wr_b_start env stream board hread

/-- The set-up of the module gives block `i` the word of buffer `i`. -/
theorem b_start_setup_module (hlength : 8 ≤ stream.ring.dmabuf.length) {i : Nat} (hi : i < 8) :
    ((ts2dtlSetupModule stream).run (boardWorld env) board).2.bStart stream.dtl.module i =
      startWord stream.portId i (stream.ring.offset i) := by
  have hrun := fun x hx board => run_wr_initial env stream board hlength (i := x) hx
  unfold ts2dtlSetupModule Board.bStart
  simp only [Program.run_bind, run_wr, hrun, Nat.reduceLT]
  -- No register written after the word of block `i` is its start address.
  interval_cases i <;>
    simp [Board.write, Function.update, s2dChxBStartAddress, s2dChxBase, s2dBStart, s2dChxCtrl,
      s2dChxB0BLength, s2dChxB0Stride, s2dChxB0XLength, s2dChxB0YLength, s2dChxB1Ctrl,
      s2dChxB1BLength, s2dChxB1Stride, s2dChxB1XLength, s2dChxB1YLength]

/-- The set-up leaves the engine disabled. -/
theorem enabled_setup_module (hlength : 8 ≤ stream.ring.dmabuf.length) :
    ((ts2dtlSetupModule stream).run (boardWorld env) board).2.enabled stream.dtl.module =
      false := by
  have hrun := fun x hx board => run_wr_initial env stream board hlength (i := x) hx
  unfold ts2dtlSetupModule Board.enabled
  simp only [Program.run_bind, run_wr, hrun, Nat.reduceLT]
  simp [Board.write, Function.update, s2dChxBStartAddress, s2dChxBase, s2dBStart, s2dChxCtrl,
    s2dChxB0BLength, s2dChxB0Stride, s2dChxB0XLength, s2dChxB0YLength, s2dChxB1Ctrl,
    s2dChxB1BLength, s2dChxB1Stride, s2dChxB1XLength, s2dChxB1YLength, s2dChxB0Ctrl, s2dS2dCtrl,
    s2dCfgCtrl, s2dS2dMaxBStart, s2dClkGating]

/-! ## Setting the parameters -/

/-- On an invalid port nothing is written. -/
theorem setparams_refused (hport : ¬ TsPort stream.portId) :
    (ts2dtlSetparams stream).run (boardWorld env) board = ((-einval, stream), board) := by
  simp [ts2dtlSetparams, open_gates_refused env stream board hport]

/-- For a transport stream on a known port the set-up succeeds. -/
theorem setparams_value (hport : TsPort stream.portId) (htype : stream.params.type = .ts) :
    ((ts2dtlSetparams stream).run (boardWorld env) board).1 = (0, stream.tabled) := by
  have htabled : stream.tabled.params.type = .ts := htype
  simp [ts2dtlSetparams, open_gates_value, hport, init_ptables_value, htabled]

/-- The board after accepted parameters: the gates and the reset, the page tables, the
module. -/
theorem setparams_board (hport : TsPort stream.portId) (htype : stream.params.type = .ts) :
    ∃ board₀, ((ts2dtlSetparams stream).run (boardWorld env) board).2 =
      ((ts2dtlSetupModule stream.tabled).run (boardWorld env)
        { ((initPtables stream).run (boardWorld env) board₀).2 with
          reads := ((initPtables stream).run (boardWorld env) board₀).2.reads + 1 }).2 := by
  have htabled : stream.tabled.params.type = .ts := htype
  refine ⟨(((ts2dtlOpenGates stream).run (boardWorld env) board).2).write 0x1
    (stream.dtl.module + s2dSwRst), ?_⟩
  simp [ts2dtlSetparams, open_gates_value, hport, init_ptables_value, htabled]

/-- After the set-up each slot names the page table of the buffer of its number. -/
theorem slot_setparams (hport : TsPort stream.portId) (htype : stream.params.type = .ts)
    (hlength : 8 ≤ stream.ring.dmabuf.length)
    (hbelow : stream.dtl.module + 0x1000 ≤ Mod.mmu) {i : Nat} (hi : i < 8) :
    ((ts2dtlSetparams stream).run (boardWorld env) board).2.slot (dmach stream.portId) i =
      stream.ring.ptPhys i := by
  obtain ⟨board₀, hboard⟩ := setparams_board env stream board hport htype
  have honly : (ts2dtlSetupModule stream.tabled).Only
      (Touches (InModule stream.dtl.module) []) :=
    only_setup_module (Or.inl hlength) fun _ h => h
  rw [hboard, slot_frame honly fun fld h => absurd h.2 (by omega)]
  exact slot_init_ptables env stream board₀ hi

/-- Each start address is the word of the port, the slot and the buffer's offset. -/
theorem b_start_setparams (hport : TsPort stream.portId) (htype : stream.params.type = .ts)
    (hlength : 8 ≤ stream.ring.dmabuf.length) {i : Nat} (hi : i < 8) :
    ((ts2dtlSetparams stream).run (boardWorld env) board).2.bStart stream.dtl.module i =
      startWord stream.portId i (stream.ring.offset i) := by
  obtain ⟨board₀, hboard⟩ := setparams_board env stream board hport htype
  rw [hboard]
  exact b_start_setup_module env stream.tabled _ hlength hi

/-- Accepted parameters leave the engine disabled. -/
theorem enabled_setparams (hport : TsPort stream.portId) (htype : stream.params.type = .ts)
    (hlength : 8 ≤ stream.ring.dmabuf.length) :
    ((ts2dtlSetparams stream).run (boardWorld env) board).2.enabled stream.dtl.module = false := by
  obtain ⟨board₀, hboard⟩ := setparams_board env stream board hport htype
  rw [hboard]
  exact enabled_setup_module env stream.tabled _ hlength

/-! ## Preparing the run -/

/-- The poll leaves the registers as they are. -/
theorem poll_preload_regs (ch delay : Nat) :
    ((pollPreload ch delay).run (boardWorld env) board).2.regs = board.regs := by
  funext address
  exact regs_frame (A := fun _ => False) (R := []) (only_poll_preload ch delay) id board

/-- The loop sees bit 7 exactly when one of its readings has it. -/
theorem poll_preload_value (ch delay : Nat) :
    ((pollPreload ch delay).run (boardWorld env) board).1 = true ↔
      ∃ k < delay,
        env.reading (board.reads + k) (Mod.mmu + mmuDmaConfig ch) &&& 0x80 ≠ 0 := by
  -- The readings are numbered from the current one, so the board changes with every poll.
  induction delay generalizing board with
  | zero => simp [pollPreload]
  | succ delay ih =>
      simp only [pollPreload, Program.run_bind, run_delay, run_rd, Program.run_ite]
      by_cases hnow : env.reading board.reads (Mod.mmu + mmuDmaConfig ch) &&& 0x80 ≠ 0
      · rw [if_pos hnow]
        exact ⟨fun _ => ⟨0, by omega, hnow⟩, fun _ => rfl⟩
      · rw [if_neg hnow, ih]
        constructor
        · rintro ⟨k, hk, hseen⟩
          exact ⟨k + 1, by omega, by simpa [Nat.add_right_comm, Nat.add_assoc] using hseen⟩
        · rintro ⟨k, hk, hseen⟩
          cases k with
          | zero => exact absurd hseen hnow
          | succ k => exact ⟨k, by omega, by simpa [Nat.add_right_comm, Nat.add_assoc] using hseen⟩

/-- The readings in which `saa7231_ts2dtl_run_prepare` looks for bit 7, the first of them
number `first`. -/
def Environment.PreloadSeen (env : Environment) (first ch : Nat) : Prop :=
  ∃ k < 1000, env.reading (first + k) (Mod.mmu + mmuDmaConfig ch) &&& 0x80 ≠ 0

variable {stream}

/-- The preparation fails exactly if the preload is never seen. -/
theorem run_prepare_value (hlength : 8 ≤ stream.ring.dmabuf.length) :
    ((ts2dtlRunPrepare stream).run (boardWorld env) board).1.2 = stream.prepared ∧
      (((ts2dtlRunPrepare stream).run (boardWorld env) board).1.1 < 0 ↔
        ¬ env.PreloadSeen (board.reads + 1) (dmach stream.portId)) := by
  simp only [ts2dtlRunPrepare, Program.run_bind,
    run_wr_initial env stream _ hlength (by decide : 0 < 8),
    run_wr_initial env stream _ hlength (by decide : 1 < 8), run_rd, run_wr]
  generalize hpoll : (pollPreload (dmach stream.portId) 1000).run (boardWorld env) _ = poll
  have hseen : poll.1 = true ↔ env.PreloadSeen (board.reads + 1) (dmach stream.portId) := by
    rw [← hpoll]
    exact poll_preload_value env _ _ _
  rw [← hseen]
  cases poll.1 with
  | true => exact ⟨rfl, by simp⟩
  | false => exact ⟨rfl, by simp [einval]⟩

/-- The preparation writes the words of the first two buffers once more, and the DMA
configuration of its channel. -/
theorem run_prepare_regs (hlength : 8 ≤ stream.ring.dmabuf.length) :
    ∃ config config' : BitVec 32,
      ((ts2dtlRunPrepare stream).run (boardWorld env) board).2.regs =
        ((((board.write (startWord stream.portId 0 (stream.ring.offset 0))
          (stream.dtl.module + s2dChxBStartAddress 0 0)).write
          (startWord stream.portId 1 (stream.ring.offset 1))
          (stream.dtl.module + s2dChxBStartAddress 1 0)).write
          config (Mod.mmu + mmuDmaConfig (dmach stream.portId))).write
          config' (Mod.mmu + mmuDmaConfig (dmach stream.portId))).regs := by
  simp only [ts2dtlRunPrepare, Program.run_bind,
    run_wr_initial env stream _ hlength (by decide : 0 < 8),
    run_wr_initial env stream _ hlength (by decide : 1 < 8), run_rd, run_wr, Program.run_ite,
    Program.run_pure, apply_ite Prod.snd, ite_self, poll_preload_regs]
  exact ⟨_, _, rfl⟩

/-- It leaves the slot table alone. -/
theorem slot_run_prepare (hlength : 8 ≤ stream.ring.dmabuf.length)
    (hbelow : stream.dtl.module + 0x1000 ≤ Mod.mmu) {i : Nat} (hi : i < 8) :
    ((ts2dtlRunPrepare stream).run (boardWorld env) board).2.slot (dmach stream.portId) i =
      board.slot (dmach stream.portId) i := by
  have honly : (ts2dtlRunPrepare stream).Only (Touches (fun address =>
      InModule stream.dtl.module address ∨
        address = Mod.mmu + mmuDmaConfig (dmach stream.portId)) []) :=
    only_run_prepare (Or.inl hlength) (fun _ => Or.inl) (Or.inr rfl)
  refine slot_frame honly (fun fld => ?_) board
  rintro (hmodule | hconfig)
  · exact absurd hmodule.2 (by omega)
  · cases fld <;> simp only [mmuPta, mmuDmaConfig, ptaBase, PtaFld.offset] at hconfig <;> omega

/-- It writes the first two start addresses again. -/
theorem b_start_run_prepare (hlength : 8 ≤ stream.ring.dmabuf.length)
    (hbelow : stream.dtl.module + 0x1000 ≤ Mod.mmu) {i : Nat} (hi : i < 8) :
    ((ts2dtlRunPrepare stream).run (boardWorld env) board).2.bStart stream.dtl.module i =
      if i < 2 then startWord stream.portId i (stream.ring.offset i)
      else board.bStart stream.dtl.module i := by
  have hconfig : ∀ offset < 0x1000,
      stream.dtl.module + offset ≠ Mod.mmu + mmuDmaConfig (dmach stream.portId) := by
    intro offset hoffset
    omega
  obtain ⟨config, config', hregs⟩ := run_prepare_regs env board hlength
  unfold Board.bStart
  rw [hregs]
  interval_cases i <;>
    simp [Board.write, Function.update, s2dChxBStartAddress, s2dChxBase, s2dBStart, hconfig]

/-- The preparation does not touch the control register. -/
theorem enabled_run_prepare (hlength : 8 ≤ stream.ring.dmabuf.length)
    (hbelow : stream.dtl.module + 0x1000 ≤ Mod.mmu) :
    ((ts2dtlRunPrepare stream).run (boardWorld env) board).2.enabled stream.dtl.module =
      board.enabled stream.dtl.module := by
  have hconfig : stream.dtl.module ≠ Mod.mmu + mmuDmaConfig (dmach stream.portId) := by omega
  obtain ⟨config, config', hregs⟩ := run_prepare_regs env board hlength
  unfold Board.enabled
  rw [hregs]
  simp [Board.write, Function.update, s2dChxBStartAddress, s2dChxBase, s2dBStart, s2dS2dCtrl,
    hconfig]

/-! ## Acquiring -/

/-- The clock of the stream runs or can be activated. -/
def Stream.Clockable (env : Environment) (stream : Stream) : Prop :=
  stream.dtl.clockRun = true ∨ 0 ≤ env.activation

instance (stream : Stream) : Decidable (stream.Clockable env) :=
  inferInstanceAs (Decidable (_ ∨ _))

/-- A clock that is refused leaves everything as it is. -/
theorem ensure_clock_refused (hclock : ¬ stream.Clockable env) :
    (ts2dtlEnsureClock stream).run (boardWorld env) board = ((-einval, stream), board) := by
  unfold Stream.Clockable at hclock
  rw [not_or, Int.not_le] at hclock
  simp [ts2dtlEnsureClock, hclock.1, hclock.2]

/-- A clock that runs is recorded, and the board is as before. -/
theorem ensure_clock_run (hclock : stream.Clockable env) :
    ∃ ret : Int, 0 ≤ ret ∧
      (ts2dtlEnsureClock stream).run (boardWorld env) board = ((ret, stream.clocked), board) := by
  by_cases hrun : stream.dtl.clockRun = true
  · have hsame : stream.clocked = stream := by
      unfold Stream.clocked
      rw [← hrun]
    exact ⟨0, le_refl 0, by simp [ts2dtlEnsureClock, hrun, hsame]⟩
  · have hactivation : 0 ≤ env.activation := hclock.resolve_left hrun
    refine ⟨env.activation, hactivation, ?_⟩
    simp [ts2dtlEnsureClock, hrun, Int.not_lt.mpr hactivation, Stream.clocked]

/-- The stream after an acquire with accepted parameters. -/
def Stream.acquired (env : Environment) (stream : Stream) : Stream :=
  if stream.Clockable env then
    if TsPort stream.portId then stream.clocked.tabled.prepared else stream.clocked
  else stream

/-- An acquire leaves the ring alone. -/
theorem acquired_ring : (stream.acquired env).ring = stream.ring := by
  unfold Stream.acquired
  split_ifs <;> rfl

/-- The index of the next write advances by eight, as a C `int`, with each clock. -/
theorem acquired_index_w {stream : Stream} (hport : TsPort stream.portId) :
    (stream.acquired env).indexW =
      if stream.Clockable env then (stream.indexW + 8).bmod (2 ^ 32) else stream.indexW := by
  unfold Stream.acquired
  rw [if_pos hport]
  split <;> rfl

/-- An acquire without a clock or a port leaves the board alone. -/
theorem acquire_refused (hvalid : stream.params.valid = true)
    (hrefused : ¬ (stream.Clockable env ∧ TsPort stream.portId)) :
    (ts2dtlAcquire stream).run (boardWorld env) board = ((0, stream.acquired env), board) := by
  simp only [ts2dtlAcquire, hvalid, ts2dtlAcquireLocked, Program.run_bind, run_mutex_lock,
    Program.run_ite, run_mutex_unlock]
  by_cases hclock : stream.Clockable env
  · have hport : ¬ TsPort stream.clocked.portId := fun h => hrefused ⟨hclock, h⟩
    obtain ⟨ret, hret, hrun⟩ := ensure_clock_run env board hclock
    have hacquired : stream.acquired env = stream.clocked :=
      (if_pos hclock).trans (if_neg hport)
    simp [hrun, Int.not_lt.mpr hret, setparams_refused env _ _ hport, einval, hacquired]
  · have hacquired : stream.acquired env = stream := if_neg hclock
    simp [ensure_clock_refused env board hclock, einval, hacquired]

/-- With a clock and a port the parameters are set and the run is prepared. The error of the
preparation is the only one left. -/
theorem acquire_locked_run (htype : stream.params.type = .ts)
    (hclock : stream.Clockable env) (hport : TsPort stream.portId) :
    ∃ ret : Int, (ts2dtlAcquireLocked stream).run (boardWorld env) board =
      ((ret, ((ts2dtlRunPrepare stream.clocked.tabled).run (boardWorld env)
          ((ts2dtlSetparams stream.clocked).run (boardWorld env) board).2).1.2),
        ((ts2dtlRunPrepare stream.clocked.tabled).run (boardWorld env)
          ((ts2dtlSetparams stream.clocked).run (boardWorld env) board).2).2) := by
  obtain ⟨ret, hret, hrun⟩ := ensure_clock_run env board hclock
  have hset := setparams_value env stream.clocked board hport htype
  simp only [ts2dtlAcquireLocked, Program.run_bind, Program.run_ite, Program.run_pure, hrun,
    Int.not_lt.mpr hret, hset, if_false, Int.lt_irrefl]
  generalize (ts2dtlRunPrepare stream.clocked.tabled).run (boardWorld env) _ = prepared
  obtain ⟨⟨retPrepare, streamPrepare⟩, boardPrepare⟩ := prepared
  by_cases herror : retPrepare < 0
  · exact ⟨-einval, by simp [herror]⟩
  · exact ⟨retPrepare, by simp [herror]⟩

/-- An acquire with a clock and a port sets the parameters and prepares the run. -/
theorem acquire_run (hvalid : stream.params.valid = true) (htype : stream.params.type = .ts)
    (hlength : 8 ≤ stream.ring.dmabuf.length) (hclock : stream.Clockable env)
    (hport : TsPort stream.portId) :
    (ts2dtlAcquire stream).run (boardWorld env) board =
      ((0, stream.acquired env), ((ts2dtlRunPrepare stream.clocked.tabled).run (boardWorld env)
        ((ts2dtlSetparams stream.clocked).run (boardWorld env) board).2).2) := by
  have hprepare := (run_prepare_value env
    ((ts2dtlSetparams stream.clocked).run (boardWorld env) board).2
    (show 8 ≤ stream.clocked.tabled.ring.dmabuf.length from hlength)).1
  have hacquired : stream.acquired env = stream.clocked.tabled.prepared :=
    (if_pos hclock).trans (if_pos hport)
  obtain ⟨ret, hlocked⟩ := acquire_locked_run env board htype hclock hport
  rw [hacquired, ← hprepare]
  simp [ts2dtlAcquire, hvalid, hlocked]

/-- With complete parameters an acquire succeeds. -/
theorem acquire_value (hvalid : stream.params.valid = true) (htype : stream.params.type = .ts)
    (hlength : 8 ≤ stream.ring.dmabuf.length) :
    ((ts2dtlAcquire stream).run (boardWorld env) board).1 = (0, stream.acquired env) := by
  by_cases hprograms : stream.Clockable env ∧ TsPort stream.portId
  · rw [acquire_run env board hvalid htype hlength hprograms.1 hprograms.2]
  · rw [acquire_refused env board hvalid hprograms]

/-- The acquire of the stream reaches `saa7231_init_ptables` and finds its buffers there. -/
structure Stream.Programs (env : Environment) (stream : Stream) : Prop where
  valid : stream.params.valid = true
  type : stream.params.type = .ts
  length : 8 ≤ stream.ring.dmabuf.length
  below : stream.dtl.module + 0x1000 ≤ Mod.mmu
  clock : stream.Clockable env
  port : TsPort stream.portId

/-- An acquire puts the first eight buffers of the ring into the slots, wherever the ring
stands. -/
theorem slot_acquire (h : stream.Programs env) {i : Nat} (hi : i < 8) :
    ((ts2dtlAcquire stream).run (boardWorld env) board).2.slot (dmach stream.portId) i =
      stream.ring.ptPhys i := by
  have hprepared : 8 ≤ stream.clocked.tabled.ring.dmabuf.length := h.length
  rw [acquire_run env board h.valid h.type h.length h.clock h.port]
  exact (slot_run_prepare env _ hprepared h.below hi).trans
    (slot_setparams env stream.clocked board h.port h.type h.length h.below hi)

/-- After an acquire each start address is the word of its slot. -/
theorem b_start_acquire (h : stream.Programs env) {i : Nat} (hi : i < 8) :
    ((ts2dtlAcquire stream).run (boardWorld env) board).2.bStart stream.dtl.module i =
      startWord stream.portId i (stream.ring.offset i) := by
  have hprepared : 8 ≤ stream.clocked.tabled.ring.dmabuf.length := h.length
  rw [acquire_run env board h.valid h.type h.length h.clock h.port]
  refine (b_start_run_prepare env _ hprepared h.below hi).trans ?_
  split
  next => rfl
  next => exact b_start_setparams env stream.clocked board h.port h.type h.length hi

/-- Setting the parameters disables the engine, and preparing the run does not enable it. -/
theorem enabled_acquire (h : stream.Programs env) :
    ((ts2dtlAcquire stream).run (boardWorld env) board).2.enabled stream.dtl.module = false := by
  have hprepared : 8 ≤ stream.clocked.tabled.ring.dmabuf.length := h.length
  rw [acquire_run env board h.valid h.type h.length h.clock h.port]
  exact (enabled_run_prepare env _ hprepared h.below).trans
    (enabled_setparams env stream.clocked board h.port h.type h.length)

/-! ## Running, stopping and pausing -/

/-- `saa7231_ts2dtl_run` enables the engine whatever its registers read. -/
theorem enabled_run :
    ((ts2dtlRun stream).run (boardWorld env) board).2.enabled stream.dtl.module = true := by
  simp [ts2dtlRun, Board.enabled, Board.write]

/-- A run succeeds, and sets `stream_run`. -/
theorem run_value : ((ts2dtlRun stream).run (boardWorld env) board).1 =
    (0, { stream with dtl := { stream.dtl with streamRun := true } }) := by
  simp [ts2dtlRun]

/-- A run writes the engine's registers. -/
theorem only_run {A : Nat → Prop} {E : BoardOp → Prop}
    (hA : ∀ address, InModule stream.dtl.module address → A address) :
    (ts2dtlRun stream).Only (WritesIn A E) := by
  have hreg : ∀ offset < 0x1000, A (stream.dtl.module + offset) := fun offset h =>
    hA _ ⟨by omega, by omega⟩
  simp only [ts2dtlRun, only_rd_bind, only_wr_bind]
  exact fun _ => ⟨hreg _ (by decide), fun _ => ⟨hreg _ (by decide), hreg _ (by decide),
    hreg _ (by decide), trivial⟩⟩

/-! ## Exchanging one buffer -/

/-- An index behind the last slot is refused. -/
theorem set_buffer_refused {index : BitVec 32} (hindex : 8 ≤ index.toNat) (buf : Nat) :
    (ts2dtlSetBuffer stream index buf).run (boardWorld env) board = (some (-einval), board) := by
  simp [ts2dtlSetBuffer, Nat.not_lt.mpr hindex]

/-- An exchange writes the entry of the slot, then its start address. -/
theorem set_buffer_board {index : BitVec 32} (hindex : index.toNat < 8) (buf : Nat) :
    ((ts2dtlSetBuffer stream index buf).run (boardWorld env) board).2 =
      ((wrBStart stream buf index.toNat).run (boardWorld env)
        ((wrPta (dmach stream.portId) index.toNat (stream.ring.ptPhys buf)).run (boardWorld env)
          board).2).2 := by
  simp [ts2dtlSetBuffer, hindex]

/-- An exchange writes the engine's registers, and overruns only behind the array. -/
theorem only_set_buffer {A : Nat → Prop} {R : List Record} {index : BitVec 32} {buf : Nat}
    (hA : ∀ address, EngineRegs stream.portId stream.dtl.module address → A address)
    (hread : (index.toNat < 8 → buf + index.toNat < stream.ring.dmabuf.length) ∨
      Record.overruns ∈ R) :
    (ts2dtlSetBuffer stream index buf).Only (Touches A R) := by
  simp only [ts2dtlSetBuffer, Program.only_ite]
  refine ⟨fun hindex => ?_, fun _ => trivial⟩
  refine Program.Only.bind
    (only_wr_pta hindex fun address h => hA address (Or.inr h)) fun _ => ?_
  refine Program.Only.bind ?_ fun _ => trivial
  exact only_wr_b_start (hA _ (Or.inl (b_start_in_module _ hindex)))
    (hread.imp (fun h => h hindex) touches_beyond_array)

/-- Exchanging a buffer changes its slot only. -/
theorem slot_set_buffer (hbelow : stream.dtl.module + 0x1000 ≤ Mod.mmu) (index : BitVec 32)
    (buf : Nat) {i : Nat} (hi : i < 8) :
    ((ts2dtlSetBuffer stream index buf).run (boardWorld env) board).2.slot
        (dmach stream.portId) i =
      if i = index.toNat then stream.ring.ptPhys buf else board.slot (dmach stream.portId) i := by
  by_cases hindex : index.toNat < 8
  · have honly : (wrBStart stream buf index.toNat).Only
        (Touches (InModule stream.dtl.module) [.overruns]) :=
      only_wr_b_start (b_start_in_module _ hindex) (Or.inr (touches_beyond_array (by simp)))
    rw [set_buffer_board env board hindex, slot_frame honly fun fld h => absurd h.2 (by omega)]
    exact slot_wr_pta env board _ hindex
  · rw [set_buffer_refused env board (Nat.not_lt.mp hindex), if_neg (by omega)]

/-- Exchanging a buffer leaves the engine as it is. -/
theorem enabled_set_buffer (hbelow : stream.dtl.module + 0x1000 ≤ Mod.mmu) (index : BitVec 32)
    (buf : Nat) :
    ((ts2dtlSetBuffer stream index buf).run (boardWorld env) board).2.enabled stream.dtl.module =
      board.enabled stream.dtl.module := by
  have hcontrol : InModule stream.dtl.module (stream.dtl.module + s2dS2dCtrl) :=
    ⟨Nat.le_add_right _ _, by simp [s2dS2dCtrl]⟩
  have honly : (ts2dtlSetBuffer stream index buf).Only
      (Touches (fun address => InChannel (dmach stream.portId) address ∨
        ∃ i < 8, address = stream.dtl.module + s2dChxBStartAddress i 0) [.overruns]) := by
    simp only [ts2dtlSetBuffer, Program.only_ite]
    refine ⟨fun hindex => ?_, fun _ => trivial⟩
    refine Program.Only.bind (only_wr_pta hindex fun _ h => Or.inl h) fun _ => ?_
    refine Program.Only.bind ?_ fun _ => trivial
    exact only_wr_b_start (Or.inr ⟨_, hindex, rfl⟩) (Or.inr (touches_beyond_array (by simp)))
  unfold Board.enabled
  rw [regs_frame honly]
  rintro (hchannel | ⟨i, hi, heq⟩)
  · exact hcontrol.not_in_channel hbelow hchannel
  · have hoffset := Nat.add_left_cancel heq
    simp only [s2dS2dCtrl, s2dChxBStartAddress, s2dChxBase, s2dBStart] at hoffset
    split_ifs at hoffset
    omega

/-- The start address of the exchanged slot takes the offset of the buffer as many places
behind it as the slot has number. -/
theorem b_start_set_buffer (hbelow : stream.dtl.module + 0x1000 ≤ Mod.mmu) {index : BitVec 32}
    {buf : Nat} (hread : index.toNat < 8 → buf + index.toNat < stream.ring.dmabuf.length)
    {i : Nat} (hi : i < 8) :
    ((ts2dtlSetBuffer stream index buf).run (boardWorld env) board).2.bStart
        stream.dtl.module i =
      if i = index.toNat then
        startWord stream.portId i (stream.ring.offset (buf + i))
      else board.bStart stream.dtl.module i := by
  by_cases hindex : index.toNat < 8
  · have honly : (wrPta (dmach stream.portId) index.toNat (stream.ring.ptPhys buf)).Only
        (Touches (InChannel (dmach stream.portId)) []) := only_wr_pta hindex fun _ h => h
    have hkeep : ∀ j < 8, ((wrPta (dmach stream.portId) index.toNat
        (stream.ring.ptPhys buf)).run (boardWorld env) board).2.bStart stream.dtl.module j =
          board.bStart stream.dtl.module j := by
      intro j hj
      exact regs_frame honly ((b_start_in_module _ hj).not_in_channel hbelow) board
    rw [set_buffer_board env board hindex, run_wr_b_start env stream _ (hread hindex)]
    by_cases hsame : i = index.toNat
    · rw [if_pos hsame, ← hsame]
      exact Function.update_self _ _ _
    · rw [if_neg hsame, ← hkeep i hi]
      refine Function.update_of_ne (fun heq => hsame ?_) _ _
      exact b_start_injective hi hindex (Nat.add_left_cancel heq)
  · rw [set_buffer_refused env board (Nat.not_lt.mp hindex), if_neg (by omega)]

/-- No other start address is written. -/
theorem written_set_buffer (hbelow : stream.dtl.module + 0x1000 ≤ Mod.mmu) (index : BitVec 32)
    (buf : Nat) {i : Nat} (hi : i < 8) (hother : i ≠ index.toNat) :
    ((ts2dtlSetBuffer stream index buf).run (boardWorld env) board).2.bStartWritten
        stream.dtl.module i = board.bStartWritten stream.dtl.module i := by
  have honly : (ts2dtlSetBuffer stream index buf).Only
      (Touches (fun address => InChannel (dmach stream.portId) address ∨ index.toNat < 8 ∧
        address = stream.dtl.module + s2dChxBStartAddress index.toNat 0) [.overruns]) := by
    simp only [ts2dtlSetBuffer, Program.only_ite]
    refine ⟨fun hindex => ?_, fun _ => trivial⟩
    refine Program.Only.bind (only_wr_pta hindex fun _ h => Or.inl h) fun _ => ?_
    refine Program.Only.bind ?_ fun _ => trivial
    exact only_wr_b_start (Or.inr ⟨hindex, rfl⟩) (Or.inr (touches_beyond_array (by simp)))
  refine written_frame honly ?_ board
  rintro (hchannel | ⟨hindex, heq⟩)
  · exact (b_start_in_module _ hi).not_in_channel hbelow hchannel
  · exact hother (b_start_injective hi hindex (Nat.add_left_cancel heq))

/-- Past the end of the array the offset is read all the same. -/
theorem overruns_set_buffer {index : BitVec 32} (hindex : index.toNat < 8) {buf : Nat}
    (hread : stream.ring.dmabuf.length ≤ buf + index.toNat) :
    ((ts2dtlSetBuffer stream index buf).run (boardWorld env) board).2.overruns ≠ [] := by
  rw [set_buffer_board env board hindex, overruns_wr_b_start env stream _ hread]
  exact List.cons_ne_nil _ _

/-! ## Looking at the current buffer -/

/-- The index of the filled buffer is read, and one interrupt is cleared. -/
theorem only_get_buffer {A : Nat → Prop} {E : BoardOp → Prop}
    (hclear : A (stream.dtl.module + s2dIntClrStatus 0)) :
    (ts2dtlGetBuffer stream).Only (WritesIn A E) := by
  simp [ts2dtlGetBuffer, hclear]

/-- Looking at the current buffer changes the counters and the remembered address. -/
theorem get_buffer_yields :
    (ts2dtlGetBuffer stream).Yields fun result =>
      SameHardware stream result.2.2 ∧ result.2.2.indexW = stream.indexW ∧
        result.2.2.ring = stream.ring ∧
        result.2.2.dtl.streamRun = stream.dtl.streamRun := by
  have hcount : ∀ stat, (stream.dtl.countStatus stat).module = stream.dtl.module := fun _ => rfl
  have hrun : ∀ stat, (stream.dtl.countStatus stat).streamRun = stream.dtl.streamRun :=
    fun _ => rfl
  simp [ts2dtlGetBuffer, SameHardware.refl, hcount, hrun]

end Run

end Saa7231
