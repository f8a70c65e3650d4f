import Saa7231.I2c.Accesses
import Saa7231.I2c.Traffic

/-!
# The words on the wire

`I2c.words` are the words that a transcript pushes into `TX_FIFO`. Everything but the push of a
word and the take of a byte leaves both FIFOs alone (`Quiet`), so a transcript that serves words
pushes exactly these (`Serves.words`).
-/

namespace Saa7231

open Interaction Bus Program

variable {i2c : I2c} {steps : List I2cStep}

/-- The word that a step pushes into `TX_FIFO`. -/
def I2c.word (i2c : I2c) (step : I2cStep) : Option (BitVec 32) :=
  match step.1 with
  | .wr data address => if address = i2c.dev + txFifo then some data else none
  | .rd _ | .delay _ | .extra _ => none

/-- The words of a transcript, in order. -/
def I2c.words (i2c : I2c) (steps : List I2cStep) : List (BitVec 32) :=
  steps.filterMap i2c.word

/-- The word of the first step comes first. -/
theorem words_cons (step : I2cStep) (steps : List I2cStep) :
    i2c.words (step :: steps) = (i2c.word step).toList ++ i2c.words steps := by
  unfold I2c.words
  cases h : i2c.word step with
  | none => rw [List.filterMap_cons_none h]; rfl
  | some data => rw [List.filterMap_cons_some h]; rfl

/-- The words of a joined transcript come one after the other. -/
theorem words_append (first second : List I2cStep) :
    i2c.words (first ++ second) = i2c.words first ++ i2c.words second :=
  List.filterMap_append

/-- The operation leaves `TX_FIFO` and `RX_FIFO` alone. -/
def Quiet (i2c : I2c) {Ext : Type} : BusOp Ext → Prop
  | .rd address => address ≠ i2c.dev + rxFifo
  | .wr _ address => address ≠ i2c.dev + txFifo
  | .delay _ | .extra _ => True

/-- A reading of the status. -/
theorem quiet_status : Quiet i2c (.rd (i2c.dev + i2cStatus) : BusOp I2cOp) := by
  simp [Quiet, i2cStatus, rxFifo]

/-- Everything around the words. -/
theorem quiet_upkeep : Upkeep i2c (Quiet i2c : BusOp I2cOp → Prop) where
  status := quiet_status
  control := by simp [Quiet, i2cControl, rxFifo]
  set reg hreg _ := by
    have hne : reg ≠ txFifo := by
      intro heq
      subst heq
      exact absurd hreg (by decide)
    exact fun haddress => hne (Nat.add_left_cancel haddress)
  delay _ := trivial

/-- A quiet step pushes no word. -/
theorem Quiet.word {step : I2cStep} (h : Quiet i2c step.1) : i2c.word step = none := by
  obtain ⟨op, answer⟩ := step
  cases op with
  | wr data address => exact if_neg h
  | rd | delay | extra => rfl

/-- Quiet steps push no words. -/
theorem words_quiet (h : ∀ step ∈ steps, Quiet i2c step.1) : i2c.words steps = [] :=
  List.filterMap_eq_nil_iff.mpr fun step hstep => (h step hstep).word

/-- A successful send pushes its word only. -/
theorem send_words {data : BitVec 32} (h : Produces (i2cSend i2c data) steps 0) :
    i2c.words steps = [data] := by
  obtain ⟨hfail, _⟩ | ⟨before, after, empty, hready, hpoll, rfl, _⟩ := send_produces h
  · exact absurd hfail (by decide)
  · have hbefore := words_quiet ((only_await_tx quiet_upkeep).produces hready)
    have hafter := words_quiet ((only_poll_tx_empty quiet_status 1000).produces hpoll)
    have hpush : i2c.word ⟨.wr data (i2c.dev + txFifo), ()⟩ = some data := if_pos rfl
    rw [words_append, words_cons, words_cons, hbefore, hafter, hpush]
    rfl

/-- A receive pushes none. -/
theorem recv_words {result : Except Int (BitVec 32)} (h : Produces (i2cRecv i2c) steps result) :
    i2c.words steps = [] := by
  obtain ⟨_, hpoll⟩ | ⟨polls, data, hpoll, rfl, _⟩ := recv_produces h
  · exact words_quiet ((only_poll_rx quiet_status 100).produces hpoll)
  · rw [words_append, words_quiet ((only_poll_rx quiet_status 100).produces hpoll)]
    rfl

/-- A transcript that serves words pushes exactly these. -/
theorem Serves.words {words : List BusWord} {bytes : List (BitVec 8)}
    (h : Serves i2c words steps bytes) : i2c.words steps = words.map (·.word) := by
  induction h with
  | nil => rfl
  | push hsend _ ih =>
      rw [words_append, send_words hsend, ih]
      rfl
  | clock hsend hrecv _ ih =>
      rw [words_append, words_append, send_words hsend, recv_words hrecv, ih]
      rfl

/-- The steps around the words of a transfer leave both FIFOs alone. -/
theorem framed_split (i2c : I2c) (reg : BitVec 32) : ∃ first last : List I2cStep,
    (∀ step ∈ first, Quiet i2c step.1) ∧ (∀ step ∈ last, Quiet i2c step.1) ∧
      ∀ steps, framed i2c reg steps = first ++ (steps ++ last) := by
  refine ⟨[⟨.extra .mutexLock, ()⟩, ⟨.rd (i2c.dev + i2cControl), reg⟩,
    ⟨.wr (reg ||| 0x01) (i2c.dev + i2cControl), ()⟩], [⟨.extra .mutexUnlock, ()⟩], ?_, ?_,
    fun _ => rfl⟩
  · simp only [List.mem_cons, List.not_mem_nil, or_false]
    rintro step (rfl | rfl | rfl)
    · trivial
    · simp [Quiet, i2cControl, rxFifo]
    · simp [Quiet, i2cControl, txFifo]
  · exact fun step hstep => List.mem_singleton.mp hstep ▸ trivial

/-- The steps around a transfer push none. -/
theorem framed_words (reg : BitVec 32) : i2c.words (framed i2c reg steps) = i2c.words steps := by
  obtain ⟨first, last, hfirst, hlast, hsplit⟩ := framed_split i2c reg
  rw [hsplit, words_append, words_append, words_quiet hfirst, words_quiet hlast, List.append_nil]
  rfl

/-- A transfer that returned `num` pushed the words of its messages. -/
theorem xfer_words {msgs msgs' : List I2cMsg}
    (h : Produces (i2cXfer i2c msgs) steps (msgs.length, msgs')) :
    i2c.words steps = (wireWords msgs).map (·.word) := by
  obtain ⟨reg, middle, bytes, rfl, hserved, _⟩ := xfer_serves h
  rw [framed_words, hserved.words]

end Saa7231
