import Saa7231.I2c.Wire

/-!
# Transfers on a ready controller

A controller whose status always reads ready never makes a transfer fail: each check passes at
its first reading. Such a transfer returns `num`, and the words it pushed decode to its messages
with the STOP bit on the last word only.
-/

namespace Saa7231

open Interaction Bus Program

variable {i2c : I2c} {steps : List I2cStep}

/-- `TX_FIFO` is empty, and neither path is blocked, full or without a byte. -/
def Ready (reg : BitVec 32) : Prop :=
  reg &&& txFifoEmpty ≠ 0 ∧ reg &&& i2cTxbusy = 0 ∧ reg &&& i2cRxbusy = 0

/-- Every reading of `I2C_STATUS` is ready. -/
def AlwaysReady (i2c : I2c) (steps : List I2cStep) : Prop :=
  ∀ reg : BitVec 32, ⟨.rd (i2c.dev + i2cStatus), reg⟩ ∈ steps → Ready reg

theorem AlwaysReady.right {first second : List I2cStep}
    (h : AlwaysReady i2c (first ++ second)) : AlwaysReady i2c second :=
  fun reg hreg => h reg (List.mem_append_right _ hreg)

theorem awaitTx_ready {err : Int} (h : Produces (awaitTx i2c) steps err)
    (hready : AlwaysReady i2c steps) : err = 0 := by
  obtain ⟨reg, rest, rfl, hrest⟩ := produces_rd_bind.mp h
  rw [if_pos (hready reg List.mem_cons_self).2.1] at hrest
  exact (produces_pure.mp hrest).2

theorem pollTxEmpty_ready {n : Nat} {empty : Bool}
    (h : Produces (pollTxEmpty i2c (n + 1)) steps empty) (hready : AlwaysReady i2c steps) :
    empty = true := by
  obtain ⟨reg, rest, rfl, hrest⟩ := produces_rd_bind.mp h
  rw [if_neg (hready reg List.mem_cons_self).1] at hrest
  exact (produces_pure.mp hrest).2

theorem pollRx_ready {n : Nat} {found : Bool} (h : Produces (pollRx i2c (n + 1)) steps found)
    (hready : AlwaysReady i2c steps) : found = true := by
  obtain ⟨reg, rest, rfl, hrest⟩ := produces_rd_bind.mp h
  rw [if_pos (hready reg List.mem_cons_self).2.2] at hrest
  exact (produces_pure.mp hrest).2

/-- A send on a ready controller does not fail. -/
theorem send_ready {data : BitVec 32} {err : Int} (h : Produces (i2cSend i2c data) steps err)
    (hready : AlwaysReady i2c steps) : err = 0 := by
  obtain ⟨_, hfail⟩ | ⟨before, after, empty, _, hpoll, rfl, rfl⟩ := send_produces h
  · exact absurd (awaitTx_ready hfail hready) (by decide)
  · have hafter : AlwaysReady i2c after := fun reg hreg =>
      hready.right reg (List.mem_cons_of_mem _ (List.mem_cons_of_mem _ hreg))
    rw [pollTxEmpty_ready hpoll hafter]
    rfl

theorem not_fails_ready {word : BusWord} (hready : AlwaysReady i2c steps) :
    ¬ Fails i2c word steps := by
  intro h
  cases h with
  | send hsend => exact absurd (send_ready hsend hready) (by decide)
  | recv _ hrecv =>
      obtain ⟨_, hpoll⟩ | ⟨_, _, _, _, hok⟩ := recv_produces hrecv
      · exact absurd (pollRx_ready hpoll hready.right) (by decide)
      · cases hok

/-- A transfer on a ready controller returns `num`. -/
theorem xfer_ready {msgs msgs' : List I2cMsg} {result : Int}
    (h : Produces (i2cXfer i2c msgs) steps (result, msgs'))
    (hready : AlwaysReady i2c steps) : result = msgs.length := by
  obtain ⟨reg, middle, rfl, ⟨hresult, _⟩ | ⟨_, hbreaks⟩⟩ := xfer_produces h
  · exact hresult
  · obtain ⟨done, word, rest, served, failed, bytes, _, rfl, _, hfails⟩ := hbreaks
    have hmiddle : AlwaysReady i2c (served ++ failed) := fun reg' hreg =>
      hready reg' (List.mem_cons_of_mem _ (List.mem_cons_of_mem _ (List.mem_cons_of_mem _
        (List.mem_append_left _ hreg))))
    exact absurd hfails (not_fails_ready hmiddle.right)

/-! ## What a ready transfer puts on the wire -/

/-- A controller that answers the reads, numbered in their order, with the given readings. -/
def i2cWorld (reading : Nat → BitVec 32) : World (BusOp I2cOp) (BusAns I2cAns) Nat where
  answer op reads := match op with
    | .rd _ => reading reads
    | .wr _ _ | .delay _ | .extra _ => ()
  after op reads := match op with
    | .rd _ => reads + 1
    | .wr _ _ | .delay _ | .extra _ => reads

theorem always_ready_world {reg : BitVec 32} (hready : Ready reg) {α : Type}
    (program : I2cProgram α) (reads : Nat) :
    AlwaysReady i2c (program.transcript (i2cWorld fun _ => reg) reads) := by
  intro found hfound
  have hanswer := transcript_answers (i2cWorld fun _ => reg)
    (P := fun step => ∀ address value, step = ⟨.rd address, value⟩ → value = reg) ?_ program
    reads _ hfound _ _ rfl
  · exact hanswer ▸ hready
  · intro op state address value heq
    cases heq
    rfl

/-- On a ready controller a transfer returns `num`, and its words decode to its messages and
release the bus with the last word only. -/
theorem transfer_decodes (i2c : I2c) (msgs : List I2cMsg) (hne : msgs ≠ [])
    (hseven : ∀ msg ∈ msgs, msg.addr < 128) (hlast : (msgs.getLast hne).buf ≠ [])
    (steps : List I2cStep) (result : Int) (msgs' : List I2cMsg)
    (hrun : Produces (i2cXfer i2c msgs) steps (result, msgs'))
    (hready : AlwaysReady i2c steps) :
    result = msgs.length ∧
      decode (i2c.words steps) = some (msgs.map I2cMsg.onWire) ∧
      StopsLast (i2c.words steps) := by
  have hresult := xfer_ready hrun hready
  subst hresult
  rw [xfer_words hrun]
  exact ⟨rfl, decode_wireWords hseven, wireWords_stopsLast hseven hne hlast⟩

/-- The first master at 100 kHz. -/
def I2c.plain : I2c where
  i2cDev := 0
  i2cRate := .rate100
  rootClk := .clkRoot54MHz

/-- A write of a register number followed by a read of two bytes. -/
def registerRead : List I2cMsg :=
  [⟨0x50, 0, [0x12]⟩, ⟨0x50, i2cMRd, [0xff, 0xff]⟩]

theorem register_read_decodes : ∃ steps : List I2cStep,
    decode (I2c.plain.words steps) = some [⟨0x50, false, [0x12]⟩, ⟨0x50, true, [0, 0]⟩] ∧
      StopsLast (I2c.plain.words steps) :=
  ⟨_, (transfer_decodes I2c.plain registerRead (by decide) (by decide) (by decide) _ _ _
    (produces_run (i2cWorld fun _ => 0x40) _ 0)
    (always_ready_world ⟨by decide, by decide, by decide⟩ _ 0)).2⟩

end Saa7231
