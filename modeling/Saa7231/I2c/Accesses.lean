import Saa7231.I2c.Controller

/-!
# What the I2C functions access

For each function of a master, the operations that it performs, whatever is answered to it. The
lemmas are stated for any predicate that these operations satisfy, so that one lemma serves the
FIFOs, the resets and the locks alike. `Upkeep` is what the functions around a word need of the
predicate, and `Transfers` adds the FIFOs.
-/

namespace Saa7231

open Interaction Bus Program

/-- The registers that `saa7231_i2c_hwinit` writes. -/
def upkeepRegs : List Nat :=
  [i2cControl, i2cClockDivisorHigh, i2cClockDivisorLow, i2cSdaHold, i2cIntClrEnable, i2cIntClrStatus]

/-- The predicate allows every access of a master outside the two FIFOs. -/
structure Upkeep (i2c : I2c) {Ext : Type} (A : BusOp Ext → Prop) : Prop where
  status : A (.rd (i2c.dev + i2cStatus))
  control : A (.rd (i2c.dev + i2cControl))
  set : ∀ reg ∈ upkeepRegs, ∀ data, A (.wr data (i2c.dev + reg))
  delay : ∀ milliseconds, A (.delay milliseconds)

/-- The predicate allows the accesses to the FIFOs, too, and the wait after a word. -/
structure Transfers (i2c : I2c) (A : BusOp I2cOp → Prop) : Prop extends Upkeep i2c A where
  push : ∀ data, A (.wr data (i2c.dev + txFifo))
  take : A (.rd (i2c.dev + rxFifo))
  udelay : ∀ microseconds, A (.extra (.udelay microseconds))

section Hwinit

variable {i2c : I2c} {Ext : Type} {ExtAns : Ext → Type} {A : BusOp Ext → Prop}

/-- What is allowed at every address is allowed at those of a master. -/
theorem upkeep_of_on_bus (h : OnBus A) : Upkeep i2c A where
  status := h.rd _
  control := h.rd _
  set _ _ _ := h.wr _ _
  delay := h.delay

/-- A write to the control register. -/
theorem Upkeep.setControl (h : Upkeep i2c A) (data : BitVec 32) :
    A (.wr data (i2c.dev + i2cControl)) :=
  h.set i2cControl (by decide) data

/-- The poll reads the control register, and waits between two readings. -/
theorem only_poll_reset (hcontrol : A (.rd (i2c.dev + i2cControl))) (hdelay : A (.delay 1))
    (n : Nat) : (pollReset i2c n : BusProgram ExtAns Int).Only A := by
  induction n with
  | zero => exact only_pure _
  | succ n ih =>
      simp only [pollReset, rd_bind_only, delay_bind_only, only_ite, only_pure]
      exact ⟨hcontrol, fun _ => ⟨fun _ => trivial, fun _ => ⟨hdelay, ih⟩⟩⟩

/-- The timing goes to three registers, or to none. -/
theorem only_set_timing (h : ∀ reg ∈ [i2cClockDivisorHigh, i2cClockDivisorLow, i2cSdaHold],
    ∀ data, A (.wr data (i2c.dev + reg))) : (setTiming i2c : BusProgram ExtAns Unit).Only A := by
  unfold setTiming
  split
  next =>
    refine wr_bind_only.mpr ⟨h i2cClockDivisorHigh (by decide) _, ?_⟩
    refine wr_bind_only.mpr ⟨h i2cClockDivisorLow (by decide) _, ?_⟩
    exact wr_only.mpr (h i2cSdaHold (by decide) _)
  next => exact only_pure _

/-- The end of a transfer is forced through the control register. -/
theorem only_term_xfer (h : Upkeep i2c A) : (termXfer i2c : BusProgram ExtAns Unit).Only A := by
  simp [termXfer, wr_bind_only, delay_bind_only, wr_only, h.setControl, h.delay]

/-- A re-initialisation leaves the FIFOs alone. -/
theorem only_hwinit (h : Upkeep i2c A) : (i2cHwinit i2c : BusProgram ExtAns Int).Only A := by
  have henable (data : BitVec 32) : A (.wr data (i2c.dev + i2cIntClrEnable)) :=
    h.set i2cIntClrEnable (by decide) data
  have hclear (data : BitVec 32) : A (.wr data (i2c.dev + i2cIntClrStatus)) :=
    h.set i2cIntClrStatus (by decide) data
  simp only [i2cHwinit, rd_bind_only, wr_bind_only, only_ite, only_pure, h.status, h.setControl,
    henable, hclear, true_and, implies_true]
  refine fun _ _ => Only.bind (only_poll_reset h.control (h.delay 1) 100) fun _ => ?_
  rw [only_ite]
  refine ⟨fun _ => Only.bind (only_term_xfer h) fun _ => only_pure _, fun _ => ?_⟩
  refine Only.bind (only_set_timing fun reg hreg => h.set reg ?_) fun _ => ?_
  · simp only [List.mem_cons, List.not_mem_nil, or_false] at hreg
    obtain rfl | rfl | rfl := hreg <;> decide
  · simp only [rd_bind_only, wr_bind_only, only_ite, only_pure, h.status, henable, hclear,
      true_and, implies_true]

end Hwinit

section Words

variable {i2c : I2c} {A : BusOp I2cOp → Prop}

/-- The rounds of waits, readings and re-initialisations before a word. -/
theorem only_recover_tx (h : Upkeep i2c A) (n : Nat) : (recoverTx i2c n).Only A := by
  induction n with
  | zero => exact only_pure _
  | succ n ih =>
      simp only [recoverTx, rd_bind_only, delay_bind_only, only_ite, only_pure, h.status, h.delay,
        true_and, implies_true]
      refine fun _ _ => Only.bind (only_hwinit h) fun _ => ?_
      rw [only_ite]
      exact ⟨fun _ => trivial, fun _ => ih⟩

/-- The check of the transmit path. -/
theorem only_await_tx (h : Upkeep i2c A) : (awaitTx i2c).Only A := by
  simp only [awaitTx, rd_bind_only, only_ite, only_pure, h.status, true_and, implies_true]
  exact fun _ _ => only_recover_tx h 5

/-- The poll after a word reads the status. -/
theorem only_poll_tx_empty (h : A (.rd (i2c.dev + i2cStatus))) (n : Nat) :
    (pollTxEmpty i2c n).Only A := by
  induction n with
  | zero => exact only_pure _
  | succ n ih =>
      simp only [pollTxEmpty, rd_bind_only, only_ite, only_pure, h, implies_true, ih, and_self]

/-- So does the poll for a byte. -/
theorem only_poll_rx (h : A (.rd (i2c.dev + i2cStatus))) (n : Nat) : (pollRx i2c n).Only A := by
  induction n with
  | zero => exact only_pure _
  | succ n ih =>
      simp only [pollRx, rd_bind_only, only_ite, only_pure, h, implies_true, ih, and_self]

/-! ## Transfers -/

/-- A send writes its word between the check and the poll. -/
theorem only_send (h : Transfers i2c A) (data : BitVec 32) : (i2cSend i2c data).Only A := by
  refine Only.bind (only_await_tx h.toUpkeep) fun err => ?_
  rw [only_ite]
  refine ⟨fun _ => only_pure _, fun _ => ?_⟩
  refine wr_bind_only.mpr ⟨h.push data, only_perform_bind.mpr ⟨h.udelay 200, fun _ => ?_⟩⟩
  refine Only.bind (only_poll_tx_empty h.status 1000) fun _ => ?_
  simp

/-- A receive reads the FIFO after its poll. -/
theorem only_recv (h : Transfers i2c A) : (i2cRecv i2c).Only A := by
  refine Only.bind (only_poll_rx h.status 100) fun ready => ?_
  rw [only_ite]
  exact ⟨fun _ => only_pure _, fun _ => rd_bind_only.mpr ⟨h.take, fun _ => only_pure _⟩⟩

/-- One byte of a message. -/
theorem only_xfer_byte (h : Transfers i2c A) (read last : Bool) (byte : BitVec 8) :
    (xferByte i2c read last byte).Only A := by
  unfold xferByte
  refine Only.bind (only_send h _) fun err => ?_
  simp only [only_ite, only_pure, implies_true, true_and, and_true]
  refine fun _ _ => Only.bind (only_recv h) fun reply => ?_
  cases reply with
  | error code => trivial
  | ok data => trivial

/-- The bytes of a message. -/
theorem only_xfer_bytes (h : Transfers i2c A) (read final : Bool) (bytes : List (BitVec 8)) :
    (xferBytes i2c read final bytes).Only A := by
  induction bytes with
  | nil => trivial
  | cons byte rest ih =>
      refine Only.bind (only_xfer_byte h _ _ _) fun _ => ?_
      rw [only_ite]
      exact ⟨fun _ => trivial, fun _ => Only.bind ih fun _ => trivial⟩

/-- The messages of a transfer. -/
theorem only_xfer_msgs (h : Transfers i2c A) (msgs : List I2cMsg) :
    (xferMsgs i2c msgs).Only A := by
  induction msgs with
  | nil => trivial
  | cons msg rest ih =>
      have hmsg : (xferMsg i2c rest.isEmpty msg).Only A := by
        refine Only.bind (only_send h _) fun _ => ?_
        rw [only_ite]
        exact ⟨fun _ => trivial, fun _ => Only.bind (only_xfer_bytes h _ _ _) fun _ => trivial⟩
      refine Only.bind hmsg fun _ => ?_
      rw [only_ite]
      exact ⟨fun _ => trivial, fun _ => Only.bind ih fun _ => trivial⟩

end Words

end Saa7231
