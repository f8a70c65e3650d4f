import Saa7231.Dvb.Adapter
import Saa7231.Stream.Ts2dtlEffects

/-!
# One interrupt of a transport stream

`evhandler_handled` is the specification of the event handler on an idle ring: the buffer at
the position of the ring goes into the slot whose turn it is and to the demux, and the ring
moves one position on. A turn behind the last slot, which only an overflown `index_w` has,
leaves the slots alone.
-/

namespace Saa7231

open Interaction Bus

/-- The slot that the handler asks `saa7231_ts2dtl_set_buffer` for, an unsigned number. -/
def Stream.turn (stream : Stream) : Nat := (BitVec.ofInt 32 (nextSlot stream.indexW)).toNat

/-- A turn inside the table is the slot itself. -/
theorem turn_of_next_slot {stream : Stream} {slot : Nat}
    (hslot : nextSlot stream.indexW = slot) (hbound : slot < 8) : stream.turn = slot := by
  unfold Stream.turn
  rw [hslot, BitVec.ofInt_natCast, BitVec.toNat_ofNat]
  exact Nat.mod_eq_of_lt (by omega)

/-- The second board has the buffer at a position of the ring in one slot, and the offset of
the buffer `turn` places further in its start address. A turn behind the last slot changes
nothing. -/
structure Exchanged (stream : Stream) (turn position : Nat) (board board' : Board) : Prop where
  slot : ∀ i < 8, board'.slot (dmach stream.portId) i =
    if i = turn then stream.ring.ptPhys position else board.slot (dmach stream.portId) i
  bStart : (turn < 8 → position + turn < stream.ring.dmabuf.length) →
    ∀ i < 8, board'.bStart stream.dtl.module i =
      if i = turn then startWord stream.portId i (stream.ring.offset (position + i))
      else board.bStart stream.dtl.module i
  written : ∀ i < 8, i ≠ turn →
    board'.bStartWritten stream.dtl.module i = board.bStartWritten stream.dtl.module i
  overruns : (turn < 8 → position + turn < stream.ring.dmabuf.length) →
    board'.overruns = board.overruns
  overrun : turn < 8 → stream.ring.dmabuf.length ≤ position + turn → board'.overruns ≠ []
  regs : ∀ address, ¬ Footprint stream.portId stream.dtl.module address →
    board'.regs address = board.regs address
  enabled : board'.enabled stream.dtl.module = board.enabled stream.dtl.module
  live : board'.live = board.live
  calls : board'.calls = board.calls

/-- What handling one interrupt does to a stream whose ring is idle at a position. -/
structure Handled (position : Nat) (stream : Stream) (board : Board) (stream' : Stream)
    (board' : Board) : Prop where
  hardware : SameHardware stream stream'
  idle : stream'.ring.Idle ((position + 1) % ringsiz)
  indexW : stream'.indexW = (nextSlot stream.indexW + 1).bmod (2 ^ 32)
  streamRun : stream'.dtl.streamRun = stream.dtl.streamRun
  exchanged : Exchanged stream stream.turn position board board'
  delivered : board'.delivered = position :: board.delivered

section Handler

variable (env : Environment) (stream : Stream) (board : Board)

/-! ## The three parts of the handler -/

theorem int_clr_ne_b_start {i : Nat} (hi : i < 8) :
    s2dIntClrStatus 0 ≠ s2dChxBStartAddress i 0 := by
  simp only [s2dIntClrStatus, s2dIntBase, s2dChxBStartAddress, s2dChxBase, s2dBStart]
  split_ifs <;> omega

/-- Looking at the current buffer writes the status register of the engine only. -/
theorem only_evhandler_look {R : List Record} :
    (evhandlerLook stream).Only
      (Touches (· = stream.dtl.module + s2dIntClrStatus 0) R) := by
  unfold evhandlerLook
  cases stream.ops with
  | unset => trivial
  | ts2dtl => exact Program.Only.bind (only_get_buffer rfl) fun _ => trivial

theorem evhandler_look_yields :
    (evhandlerLook stream).Yields fun looked =>
      SameHardware stream looked ∧ looked.indexW = stream.indexW ∧ looked.ring = stream.ring ∧
        looked.dtl.streamRun = stream.dtl.streamRun := by
  unfold evhandlerLook
  cases stream.ops with
  | unset => exact ⟨.refl stream, rfl, rfl, rfl⟩
  | ts2dtl =>
      simp only [Program.yields_bind, Program.yields_pure]
      exact get_buffer_yields

variable {stream}

/-- The handler moves the cursors of the ring and leaves its buffers where they are. -/
theorem evhandler_yields : (evhandler stream).Yields (SameHardware stream) := by
  have hring : ∀ {looked : Stream} {ring : Ring Dmabuf} {indexW : Int},
      SameHardware stream looked → ring.dmabuf = looked.ring.dmabuf →
      SameHardware stream { looked with ring := ring, indexW := indexW } := fun h heq =>
    ⟨h.module, h.portId, heq.trans h.buffers, h.params, h.ops, h.handle, h.array, h.ringHandle⟩
  have hfill : ∀ looked, SameHardware stream looked →
      (evhandlerFill looked).Yields (SameHardware stream) := by
    intro looked hlooked
    unfold evhandlerFill
    rw [Program.yields_ite]
    refine ⟨fun _ => hlooked, fun _ => ?_⟩
    dsimp only
    split
    next => exact hring hlooked rfl
    next =>
        simp only [Program.yields_bind, Program.yields_pure]
        exact Program.Yields.of_forall fun _ => hring hlooked rfl
  have hdeliver : ∀ filled, SameHardware stream filled →
      (evhandlerDeliver filled).Yields (SameHardware stream) := by
    intro filled hfilled
    unfold evhandlerDeliver
    rw [Program.yields_ite]
    exact ⟨fun _ => hfilled, fun _ _ => hring hfilled rfl⟩
  unfold evhandler
  simp only [Program.yields_bind]
  refine (evhandler_look_yields stream).mono fun looked hlooked => ?_
  exact (hfill looked hlooked.1).mono hdeliver

/-- Filling a slot writes the registers of the engine only. -/
theorem only_evhandler_fill {A : Nat → Prop}
    (hA : ∀ address, EngineRegs stream.portId stream.dtl.module address → A address) :
    (evhandlerFill stream).Only (Touches A [.overruns]) := by
  unfold evhandlerFill
  rw [Program.only_ite]
  refine ⟨fun _ => trivial, fun _ => ?_⟩
  cases stream.ops with
  | unset => trivial
  | ts2dtl =>
      exact Program.Only.bind (only_set_buffer hA (Or.inr (by simp))) fun _ => trivial

theorem only_evhandler_deliver {A : Nat → Prop} :
    (evhandlerDeliver stream).Only (Touches A [.delivered]) := by
  unfold evhandlerDeliver
  rw [Program.only_ite]
  refine ⟨fun _ => trivial, fun _ => ⟨fun record hrecord => ?_, fun _ => trivial⟩⟩
  cases hrecord
  simp

/-- The handler writes the registers of the engine only. -/
theorem only_evhandler {A : Nat → Prop}
    (hA : ∀ address, EngineRegs stream.portId stream.dtl.module address → A address) :
    (evhandler stream).Only (Touches A [.overruns, .delivered]) := by
  have hstatus : InModule stream.dtl.module (stream.dtl.module + s2dIntClrStatus 0) :=
    ⟨Nat.le_add_right _ _, by simp [s2dIntClrStatus, s2dIntBase]⟩
  have hlook : (evhandlerLook stream).Only (Touches A [.overruns, .delivered]) :=
    (only_evhandler_look stream).mono fun op hop =>
      hop.mono (fun address heq => hA address (Or.inl (heq ▸ hstatus))) fun _ h => h
  unfold evhandler
  refine Program.Only.bind_yields hlook (evhandler_look_yields stream) fun looked hlooked => ?_
  refine Program.Only.bind ?_ fun filled => ?_
  · refine (only_evhandler_fill fun address hin => hA address ?_).mono fun op hop =>
      hop.mono (fun _ h => h) fun _ h record hrecord => List.mem_cons.mpr ?_
    · rwa [hlooked.1.portId, hlooked.1.module] at hin
    · exact Or.inl (List.mem_singleton.mp (h record hrecord))
  · refine only_evhandler_deliver.mono fun op hop =>
      hop.mono (fun _ h => h) fun _ h record hrecord => List.mem_cons_of_mem _ (h record hrecord)

/-- Filling a slot from an idle ring. -/
theorem evhandler_fill_run {position : Nat} (hidle : stream.ring.Idle position)
    (hops : stream.ops = .ts2dtl) :
    (evhandlerFill stream).run (boardWorld env) board =
      ({ stream with
          ring := (ringWrite stream.ring).2
          indexW := (nextSlot stream.indexW + 1).bmod (2 ^ 32) },
        ((ts2dtlSetBuffer { stream with
            ring := (ringWrite stream.ring).2
            indexW := nextSlot stream.indexW } (BitVec.ofInt 32 (nextSlot stream.indexW))
          position).run (boardWorld env) board).2) := by
  unfold evhandlerFill
  simp only [hidle.not_full, hops, hidle.write_fst, Bool.false_eq_true, if_false,
    Program.run_bind, Program.run_pure]

/-- The buffer that was just written is delivered. -/
theorem evhandler_deliver_run {position : Nat} {ring : Ring Dmabuf} (hidle : ring.Idle position)
    (hring : stream.ring = (ringWrite ring).2) :
    (evhandlerDeliver stream).run (boardWorld env) board =
      ({ stream with ring := (ringRead (ringWrite ring).2).2 },
        { board with delivered := position :: board.delivered }) := by
  unfold evhandlerDeliver
  simp only [hring, hidle.write_not_empty, hidle.read_write_fst, Bool.false_eq_true, if_false,
    Program.run_bind, Program.run_pure, run_swfilter_packets]

/-! ## The handler -/

/-- What the handler does beside looking: one exchange in the slot table and one delivery. -/
theorem evhandler_run {position : Nat} (hidle : stream.ring.Idle position)
    (hops : stream.ops = .ts2dtl) :
    let looked := (evhandlerLook stream).run (boardWorld env) board
    (evhandler stream).run (boardWorld env) board =
      ({ looked.1 with
          ring := (ringRead (ringWrite stream.ring).2).2
          indexW := (nextSlot stream.indexW + 1).bmod (2 ^ 32) },
        { ((ts2dtlSetBuffer { looked.1 with
              ring := (ringWrite stream.ring).2
              indexW := nextSlot stream.indexW } (BitVec.ofInt 32 (nextSlot stream.indexW))
            position).run (boardWorld env) looked.2).2 with
          delivered := position :: ((ts2dtlSetBuffer { looked.1 with
              ring := (ringWrite stream.ring).2
              indexW := nextSlot stream.indexW } (BitVec.ofInt 32 (nextSlot stream.indexW))
            position).run (boardWorld env) looked.2).2.delivered }) := by
  intro looked
  obtain ⟨hhardware, hindexW, hring, -⟩ :=
    (evhandler_look_yields stream).run (boardWorld env) board
  have hfill := evhandler_fill_run env looked.2 (hring ▸ hidle : looked.1.ring.Idle position)
    (hhardware.ops.trans hops)
  unfold evhandler
  rw [Program.run_bind, Program.run_bind, hfill, evhandler_deliver_run env _ hidle]
  · rw [hindexW, hring]
  · rw [hring]

/-- The exchange of a buffer in the slot table. -/
theorem set_buffer_exchanged (hbelow : stream.dtl.module + 0x1000 ≤ Mod.mmu)
    (index : BitVec 32) (position : Nat) :
    Exchanged stream index.toNat position board
      ((ts2dtlSetBuffer stream index position).run (boardWorld env) board).2 := by
  have honly : (ts2dtlSetBuffer stream index position).Only
      (Touches (Footprint stream.portId stream.dtl.module) [.overruns]) :=
    only_set_buffer (fun _ h => h.footprint) (Or.inr (by simp))
  exact
    { slot := fun i hi => slot_set_buffer env board hbelow index position hi
      bStart := fun hread i hi => b_start_set_buffer env board hbelow hread hi
      written := fun i hi hother => written_set_buffer env board hbelow index position hi hother
      overruns := fun hread => overruns_frame
        (only_set_buffer (A := Footprint stream.portId stream.dtl.module) (R := [])
          (fun _ h => h.footprint) (Or.inl hread)) (by simp) board
      overrun := fun hindex hread => overruns_set_buffer env board hindex hread
      regs := fun address hout => regs_frame honly hout board
      enabled := enabled_set_buffer env board hbelow index position
      live := live_frame honly (by simp) board
      calls := calls_frame honly (by simp) board }

/-- An exchange that follows a write to the status register of the engine. -/
theorem Exchanged.after_look {turn position : Nat} {board' : Board}
    (h : Exchanged stream turn position
      ((evhandlerLook stream).run (boardWorld env) board).2 board')
    (hbelow : stream.dtl.module + 0x1000 ≤ Mod.mmu) :
    Exchanged stream turn position board board' := by
  have honly := only_evhandler_look stream (R := [])
  have hstatus : InModule stream.dtl.module (stream.dtl.module + s2dIntClrStatus 0) :=
    ⟨Nat.le_add_right _ _, by simp [s2dIntClrStatus, s2dIntBase]⟩
  have hslot : ∀ i < 8, ((evhandlerLook stream).run (boardWorld env) board).2.slot
      (dmach stream.portId) i = board.slot (dmach stream.portId) i := by
    intro i hi
    refine slot_frame honly (fun fld heq => ?_) board
    exact hstatus.not_in_channel hbelow (heq ▸ pta_in_channel _ fld hi)
  have hother : ∀ i < 8, ¬ stream.dtl.module + s2dChxBStartAddress i 0 =
      stream.dtl.module + s2dIntClrStatus 0 :=
    fun i hi heq => int_clr_ne_b_start hi (Nat.add_left_cancel heq).symm
  have hstart : ∀ i < 8, ((evhandlerLook stream).run (boardWorld env) board).2.bStart
      stream.dtl.module i = board.bStart stream.dtl.module i :=
    fun i hi => regs_frame honly (hother i hi) board
  have henabled : ((evhandlerLook stream).run (boardWorld env) board).2.enabled
      stream.dtl.module = board.enabled stream.dtl.module := by
    unfold Board.enabled
    rw [regs_frame honly fun heq => ?_]
    exact absurd (Nat.add_left_cancel heq) (by simp [s2dS2dCtrl, s2dIntClrStatus, s2dIntBase])
  have hregs : ∀ address, ¬ Footprint stream.portId stream.dtl.module address →
      ((evhandlerLook stream).run (boardWorld env) board).2.regs address =
        board.regs address := by
    intro address hout
    refine regs_frame honly (fun heq => hout (Or.inl ?_)) board
    rw [heq]
    exact hstatus
  exact
    { slot := fun i hi => by rw [h.slot i hi, hslot i hi]
      bStart := fun hread i hi => by rw [h.bStart hread i hi, hstart i hi]
      written := fun i hi hne => (h.written i hi hne).trans (written_frame honly (hother i hi) board)
      overruns := fun hread => (h.overruns hread).trans (overruns_frame honly (by simp) board)
      overrun := h.overrun
      regs := fun address hout => (h.regs address hout).trans (hregs address hout)
      enabled := h.enabled.trans henabled
      live := h.live.trans (live_frame honly (by simp) board)
      calls := h.calls.trans (calls_frame honly (by simp) board) }

/-- Streams with the same hardware see the same exchanges. -/
theorem Exchanged.transfer {stream' : Stream} {turn position : Nat} {board' : Board}
    (hsame : SameHardware stream stream') (h : Exchanged stream' turn position board board') :
    Exchanged stream turn position board board' := by
  obtain ⟨hslot, hstart, hwritten, hoverruns, hoverrun, hregs, henabled, hlive, hcalls⟩ := h
  have hoffset : ∀ i, stream'.ring.offset i = stream.ring.offset i := by
    intro i
    unfold Ring.offset
    rw [hsame.buffers]
  simp only [hsame.portId, hsame.module, hsame.buffers, hsame.pt_phys, hoffset]
    at hslot hstart hwritten hoverruns hoverrun hregs henabled
  exact ⟨hslot, hstart, hwritten, hoverruns, hoverrun, hregs, henabled, hlive, hcalls⟩

/-- The specification of the event handler. -/
theorem evhandler_handled {position : Nat} (hidle : stream.ring.Idle position)
    (hops : stream.ops = .ts2dtl) (hbelow : stream.dtl.module + 0x1000 ≤ Mod.mmu) :
    Handled position stream board ((evhandler stream).run (boardWorld env) board).1
      ((evhandler stream).run (boardWorld env) board).2 := by
  obtain ⟨hhardware, -, hring, hrun⟩ := (evhandler_look_yields stream).run (boardWorld env) board
  rw [evhandler_run env board hidle hops]
  have hlook : ∀ board', Exchanged stream stream.turn position _ board' →
      Exchanged stream stream.turn position board board' := fun _ h => h.after_look env board hbelow
  have hdelivered :
      ((evhandlerLook stream).run (boardWorld env) board).2.delivered = board.delivered :=
    delivered_frame (only_evhandler_look stream (R := [])) (by simp) board
  generalize (evhandlerLook stream).run (boardWorld env) board = looked at *
  obtain ⟨stream₁, board₁⟩ := looked
  dsimp only at hhardware hring hrun hlook hdelivered ⊢
  -- The stream that the exchange sees differs from the first in counters and cursors only.
  generalize hexchange : ({ stream₁ with
    ring := (ringWrite stream.ring).2, indexW := nextSlot stream.indexW } : Stream) = stream₂
  have hsame : SameHardware stream stream₂ := by
    rw [← hexchange]
    exact ⟨hhardware.module, hhardware.portId, rfl, hhardware.params, hhardware.ops,
      hhardware.handle, hhardware.array, hhardware.ringHandle⟩
  have hbelow₂ : stream₂.dtl.module + 0x1000 ≤ Mod.mmu := hsame.module ▸ hbelow
  have hset := set_buffer_exchanged env board₁ hbelow₂
    (BitVec.ofInt 32 (nextSlot stream.indexW)) position
  have hall := hlook _ (hset.transfer board₁ hsame)
  have honly : (ts2dtlSetBuffer stream₂ (BitVec.ofInt 32 (nextSlot stream.indexW)) position).Only
      (Touches (Footprint stream₂.portId stream₂.dtl.module) [.overruns]) :=
    only_set_buffer (fun _ h => h.footprint) (Or.inr (by simp))
  have hkept : ((ts2dtlSetBuffer stream₂ (BitVec.ofInt 32 (nextSlot stream.indexW))
      position).run (boardWorld env) board₁).2.delivered = board₁.delivered :=
    delivered_frame honly (by simp) board₁
  exact
    { hardware := ⟨hhardware.module, hhardware.portId, rfl, hhardware.params, hhardware.ops,
        hhardware.handle, hhardware.array, hhardware.ringHandle⟩
      idle := hidle.read_write
      indexW := rfl
      streamRun := hrun
      exchanged := ⟨hall.slot, hall.bStart, hall.written, hall.overruns, hall.overrun, hall.regs,
        hall.enabled, hall.live, hall.calls⟩
      delivered := congrArg (position :: ·) (hkept.trans hdelivered) }

/-- The event handler of an adapter handles one interrupt of its stream. -/
theorem adapter_evhandler_run (env : Environment) {dvb : Dvb} (board : Board) {stream : Stream}
    (hstream : dvb.stream = some stream) :
    (adapterEvhandler dvb).run (boardWorld env) board =
      ({ dvb with stream := some ((evhandler stream).run (boardWorld env) board).1 },
        ((evhandler stream).run (boardWorld env) board).2) := by
  unfold adapterEvhandler
  rw [hstream]
  simp only [Program.run_bind, Program.run_pure]

end Handler

end Saa7231
