import Saa7231.Hardware.AddressMap
import Saa7231.Hardware.Board

/-!
# What a program leaves alone on the board

`Touches A R` bounds an operation: it writes registers of `A` only and adds to the records
of `R` only. A program made of such operations leaves every register outside `A` and every
record outside `R` as it was. The page-table slots of an MMU channel and the enable bit of a
stream-to-DMA engine are read off the registers.
-/

namespace Saa7231

open Interaction Bus

/-- The records of the board. -/
inductive Record where
  | ledger
  | overruns
  | delivered
  | calls
  | bugs
  deriving DecidableEq

/-- The record that an operation adds to. -/
def BoardOp.record : BoardOp → Option Record
  | .mutexLock _ | .mutexUnlock _ | .activateClocks _ _ | .strayStores _ _ => none
  | .beyondArray _ => some .overruns
  | .swfilterPackets _ _ => some .delivered
  | .enter _ _ => some .calls
  | .kzalloc | .getFreePage | .vmalloc _ | .dmaMapSingle _ | .dmaMapSg _ _ | .release _ =>
      some .ledger
  | .bug => some .bugs

/-- The operation writes registers of `A` only and adds to records of `R` only. -/
abbrev Touches (A : Nat → Prop) (R : List Record) : BusOp BoardOp → Prop :=
  WritesIn A fun op => ∀ record ∈ op.record, record ∈ R

section Only

variable {A : Nat → Prop} {E : BoardOp → Prop} {α : Type}

/-- Taking a mutex, and what follows. -/
@[simp] theorem only_mutex_lock_bind (lock : Mutex) (f : Unit → BoardProgram α) :
    (mutexLock lock >>= f).Only (WritesIn A E) ↔
      E (.mutexLock lock) ∧ ∀ answer, (f answer).Only (WritesIn A E) := Iff.rfl

@[simp] theorem only_mutex_unlock (lock : Mutex) :
    (mutexUnlock lock).Only (WritesIn A E) ↔ E (.mutexUnlock lock) := only_extra _

@[simp] theorem only_mutex_unlock_bind (lock : Mutex) (f : Unit → BoardProgram α) :
    (mutexUnlock lock >>= f).Only (WritesIn A E) ↔
      E (.mutexUnlock lock) ∧ ∀ answer, (f answer).Only (WritesIn A E) := Iff.rfl

/-- A clock is granted or refused. -/
@[simp] theorem only_activate_clocks_bind (mode port : Nat) (f : Int → BoardProgram α) :
    (activateClocks mode port >>= f).Only (WritesIn A E) ↔
      E (.activateClocks mode port) ∧ ∀ answer, (f answer).Only (WritesIn A E) :=
  Iff.rfl

/-- A read behind the array returns any word. -/
@[simp] theorem only_beyond_array_bind (index : Nat) (f : BitVec 32 → BoardProgram α) :
    (beyondArray index >>= f).Only (WritesIn A E) ↔
      E (.beyondArray index) ∧ ∀ answer, (f answer).Only (WritesIn A E) := Iff.rfl

/-- The call of a routine of the demux. -/
@[simp] theorem only_enter_bind (routine : Routine) (adapter : Nat)
    (f : Unit → BoardProgram α) :
    (enter routine adapter >>= f).Only (WritesIn A E) ↔
      E (.enter routine adapter) ∧ ∀ answer, (f answer).Only (WritesIn A E) :=
  Iff.rfl

@[simp] theorem only_kzalloc_bind (f : Option Nat → BoardProgram α) :
    (kzalloc >>= f).Only (WritesIn A E) ↔
      E .kzalloc ∧ ∀ answer, (f answer).Only (WritesIn A E) := Iff.rfl

@[simp] theorem only_get_free_page_bind (f : Option Nat → BoardProgram α) :
    (getFreePage >>= f).Only (WritesIn A E) ↔
      E .getFreePage ∧ ∀ answer, (f answer).Only (WritesIn A E) := Iff.rfl

@[simp] theorem only_vmalloc_bind (size : BitVec 64) (f : Option Nat → BoardProgram α) :
    (vmalloc size >>= f).Only (WritesIn A E) ↔
      E (.vmalloc size) ∧ ∀ answer, (f answer).Only (WritesIn A E) := Iff.rfl

@[simp] theorem only_dma_map_single_bind (page : Nat) (f : BitVec 64 → BoardProgram α) :
    (dmaMapSingle page >>= f).Only (WritesIn A E) ↔
      E (.dmaMapSingle page) ∧ ∀ answer, (f answer).Only (WritesIn A E) := Iff.rfl

@[simp] theorem only_dma_map_sg_bind (list pages : Nat)
    (f : Except Nat (List (BitVec 64 × Nat)) → BoardProgram α) :
    (dmaMapSg list pages >>= f).Only (WritesIn A E) ↔
      E (.dmaMapSg list pages) ∧ ∀ answer, (f answer).Only (WritesIn A E) := Iff.rfl

end Only

/-- The resources of the board: requests made, what is live, what was released. -/
def Board.ledger (board : Board) : Nat × (Resource → Bool) × List Resource :=
  (board.requests, board.live, board.released)

section Frame

variable {env : Environment} {α : Type} {program : BoardProgram α} {A : Nat → Prop}
  {R : List Record}

/-- A register outside `A` keeps its value. -/
theorem regs_frame (honly : program.Only (Touches A R)) {address : Nat} (hout : ¬ A address)
    (board : Board) :
    (program.run (boardWorld env) board).2.regs address = board.regs address := by
  refine Program.run_preserves honly (fun board => board.regs address) ?_ board
  intro op board hop
  cases op with
  | rd | delay => rfl
  | wr value target =>
      have hne : address ≠ target := fun h => hout (h ▸ hop)
      exact Function.update_of_ne hne _ _
  | extra op => cases op <;> rfl

/-- A register outside `A` is not written. -/
theorem written_frame (honly : program.Only (Touches A R)) {address : Nat} (hout : ¬ A address)
    (board : Board) :
    (program.run (boardWorld env) board).2.written address = board.written address := by
  refine Program.run_preserves honly (fun board => board.written address) ?_ board
  intro op board hop
  cases op with
  | rd | delay => rfl
  | wr value target =>
      have hne : address ≠ target := fun h => hout (h ▸ hop)
      exact Function.update_of_ne hne _ _
  | extra op => cases op <;> rfl

/-- Without operations on resources the ledger is unchanged. -/
theorem ledger_frame (honly : program.Only (Touches A R)) (hout : Record.ledger ∉ R)
    (board : Board) : (program.run (boardWorld env) board).2.ledger = board.ledger := by
  refine Program.run_preserves honly Board.ledger ?_ board
  intro op board hop
  cases op with
  | extra op => cases op <;> first | rfl | exact absurd (hop _ rfl) hout
  | _ => rfl

/-- Without the ledger among the records, the live resources stay. -/
theorem live_frame (honly : program.Only (Touches A R)) (hout : Record.ledger ∉ R)
    (board : Board) : (program.run (boardWorld env) board).2.live = board.live :=
  congrArg (fun ledger => ledger.2.1) (ledger_frame honly hout board)

/-- The overruns stay. -/
theorem overruns_frame (honly : program.Only (Touches A R)) (hout : Record.overruns ∉ R)
    (board : Board) : (program.run (boardWorld env) board).2.overruns = board.overruns := by
  refine Program.run_preserves honly Board.overruns ?_ board
  intro op board hop
  cases op with
  | extra op => cases op <;> first | rfl | exact absurd (hop _ rfl) hout
  | _ => rfl

/-- The deliveries stay. -/
theorem delivered_frame (honly : program.Only (Touches A R)) (hout : Record.delivered ∉ R)
    (board : Board) : (program.run (boardWorld env) board).2.delivered = board.delivered := by
  refine Program.run_preserves honly Board.delivered ?_ board
  intro op board hop
  cases op with
  | extra op => cases op <;> first | rfl | exact absurd (hop _ rfl) hout
  | _ => rfl

/-- The calls stay. -/
theorem calls_frame (honly : program.Only (Touches A R)) (hout : Record.calls ∉ R)
    (board : Board) : (program.run (boardWorld env) board).2.calls = board.calls := by
  refine Program.run_preserves honly Board.calls ?_ board
  intro op board hop
  cases op with
  | extra op => cases op <;> first | rfl | exact absurd (hop _ rfl) hout
  | _ => rfl

/-- The failed checks stay. -/
theorem bugs_frame (honly : program.Only (Touches A R)) (hout : Record.bugs ∉ R)
    (board : Board) : (program.run (boardWorld env) board).2.bugs = board.bugs := by
  refine Program.run_preserves honly Board.bugs ?_ board
  intro op board hop
  cases op with
  | extra op => cases op <;> first | rfl | exact absurd (hop _ rfl) hout
  | _ => rfl

/-- A `BUG_ON` that was reached stays reported. -/
theorem bugs_mono (env : Environment) (program : BoardProgram α) (board : Board) :
    board.bugs ≤ (program.run (boardWorld env) board).2.bugs := by
  induction program generalizing board with
  | ret value => exact Nat.le_refl _
  | call op next ih =>
      refine Nat.le_trans ?_ (ih _ _)
      cases op with
      | extra op => cases op <;> first | exact Nat.le_refl _ | exact Nat.le_succ _
      | _ => exact Nat.le_refl _

/-- Failed checks are never forgotten. -/
theorem bugs_of_run {board board' : Board} {value : α}
    (hrun : program.run (boardWorld env) board = (value, board')) : board.bugs ≤ board'.bugs := by
  have hmono := bugs_mono env program board
  rwa [hrun] at hmono

/-- The second board differs from the first in registers of `A`, in the ledger and in
reported bugs only. -/
structure Board.Framed (A : Nat → Prop) (board board' : Board) : Prop where
  regs : ∀ address, ¬ A address → board'.regs address = board.regs address
  written : ∀ address, ¬ A address → board'.written address = board.written address
  overruns : board'.overruns = board.overruns
  delivered : board'.delivered = board.delivered
  calls : board'.calls = board.calls

/-- Frames compose. -/
theorem Board.Framed.trans {board board' board'' : Board} (h : board.Framed A board')
    (h' : board'.Framed A board'') : board.Framed A board'' :=
  ⟨fun address hout => (h'.regs address hout).trans (h.regs address hout),
    fun address hout => (h'.written address hout).trans (h.written address hout),
    h'.overruns.trans h.overruns, h'.delivered.trans h.delivered, h'.calls.trans h.calls⟩

/-- A wider footprint frames as well. -/
theorem Board.Framed.mono {A' : Nat → Prop} {board board' : Board} (h : board.Framed A board')
    (hA : ∀ address, A address → A' address) : board.Framed A' board' :=
  ⟨fun address hout => h.regs address fun hin => hout (hA address hin),
    fun address hout => h.written address fun hin => hout (hA address hin), h.overruns, h.delivered,
    h.calls⟩

/-- A program within its footprint frames the board. -/
theorem framed_of_only (env : Environment) (honly : program.Only (Touches A [.ledger, .bugs]))
    (board : Board) :
    board.Framed A (program.run (boardWorld env) board).2 :=
  ⟨fun _ hout => regs_frame honly hout board, fun _ hout => written_frame honly hout board,
    overruns_frame honly (by simp) board,
    delivered_frame honly (by simp) board, calls_frame honly (by simp) board⟩

end Frame

/-! ## Registers of the streaming hardware -/

/-- The bus address in slot `i` of an MMU channel. -/
def Board.slot (board : Board) (ch i : Nat) : BitVec 64 :=
  board.regs (Mod.mmu + mmuPta .msb i ch) ++ board.regs (Mod.mmu + mmuPta .lsb i ch)

/-- The start address of block `i` of a stream-to-DMA module. -/
def Board.bStart (board : Board) (module i : Nat) : BitVec 32 :=
  board.regs (module + s2dChxBStartAddress i 0)

/-- The start address of block `i` was written. -/
def Board.bStartWritten (board : Board) (module i : Nat) : Bool :=
  board.written (module + s2dChxBStartAddress i 0)

/-- Bit 0 of `S2D_S2D_CTRL` is set: the engine of the module is enabled. -/
def Board.enabled (board : Board) (module : Nat) : Bool :=
  (board.regs (module + s2dS2dCtrl)).getLsbD 0

/-- The registers of a stream-to-DMA module. -/
def InModule (module address : Nat) : Prop := module ≤ address ∧ address < module + 0x1000

/-- The registers of an MMU channel: its configuration and its page-table slots. -/
def InChannel (ch address : Nat) : Prop :=
  address = Mod.mmu + mmuDmaConfig ch ∨
    (Mod.mmu + ptaBase ch ≤ address ∧ address < Mod.mmu + ptaBase (ch + 1))

/-- The entries of a slot table are registers of its channel. -/
theorem pta_in_channel {i : Nat} (ch : Nat) (fld : PtaFld) (hi : i < 8) :
    InChannel ch (Mod.mmu + mmuPta fld i ch) := by
  refine Or.inr ?_
  cases fld <;> simp only [mmuPta, ptaBase, PtaFld.offset] <;> omega

/-- A slot survives programs that do not write its two registers. -/
theorem slot_frame {env : Environment} {α : Type} {program : BoardProgram α} {A : Nat → Prop}
    {R : List Record} (honly : program.Only (Touches A R)) {ch i : Nat}
    (hout : ∀ fld, ¬ A (Mod.mmu + mmuPta fld i ch)) (board : Board) :
    (program.run (boardWorld env) board).2.slot ch i = board.slot ch i := by
  unfold Board.slot
  rw [regs_frame honly (hout .msb), regs_frame honly (hout .lsb)]

end Saa7231
