import Mathlib.Data.List.Forall2
import Saa7231.I2c.OwnBytes
import Saa7231.I2c.SendGuard

/-!
# The bytes that a transfer stores

A transfer walks over read and write messages with one variable for the words it sends and the
bytes it takes. `xfer_stores_pops` says what reaches the buffers, for every sequence of readings:
each byte stored is one pop of `RX_FIFO`, made on a ready status, the pops fill the read positions
in order, and nothing else changes.
-/

namespace Saa7231

open Interaction Bus Program

/-- The pop of a byte. -/
def I2c.popStep (i2c : I2c) (value : BitVec 32) : I2cStep := ⟨.rd (i2c.dev + rxFifo), value⟩

/-- The values that were popped from `RX_FIFO`. -/
def I2c.pops (i2c : I2c) (steps : List I2cStep) : List (BitVec 32) :=
  readings (i2c.dev + rxFifo) steps

/-- The low bytes of the values popped. -/
def I2c.popped (i2c : I2c) (steps : List I2cStep) : List (BitVec 8) :=
  (i2c.pops steps).map (·.setWidth 8)

/-- Every pop is made right after a status reading with neither `RX_FIFO_BLOCK` nor
`RX_FIFO_EMPTY`. -/
def PopsReady (i2c : I2c) (steps : List I2cStep) : Prop :=
  ∀ before value after, steps = before ++ i2c.popStep value :: after →
    ∃ init reg, before = init ++ [i2c.statusStep reg] ∧ reg &&& i2cRxbusy = 0

/-- The bytes at the read positions: the buffers of the read messages, in order. -/
def readBytes (msgs : List I2cMsg) : List (BitVec 8) := (msgs.filter (·.isRead)).flatMap (·.buf)

/-- The messages differ at most in the contents of a read buffer. -/
structure SameButRead (msg msg' : I2cMsg) : Prop where
  addr : msg'.addr = msg.addr
  flags : msg'.flags = msg.flags
  length : msg'.buf.length = msg.buf.length
  write : msg.isRead = false → msg' = msg

/-- The first read positions have been filled with the bytes, and nothing else has changed. -/
structure Stores (msgs msgs' : List I2cMsg) (bytes : List (BitVec 8)) : Prop where
  same : List.Forall₂ SameButRead msgs msgs'
  filled : readBytes msgs' = bytes ++ (readBytes msgs).drop bytes.length

variable {i2c : I2c} {steps : List I2cStep} {bytes : List (BitVec 8)}

/-! ## Read positions -/

/-- A read has the bytes of its buffer. -/
theorem readBytes_read {msg : I2cMsg} (hread : msg.isRead = true) (rest : List I2cMsg) :
    readBytes (msg :: rest) = msg.buf ++ readBytes rest := by
  unfold readBytes
  rw [List.filter_cons_of_pos hread, List.flatMap_cons]

/-- A write has none. -/
theorem readBytes_write {msg : I2cMsg} (hwrite : msg.isRead = false) (rest : List I2cMsg) :
    readBytes (msg :: rest) = readBytes rest := by
  unfold readBytes
  rw [List.filter_cons_of_neg (by rw [hwrite]; exact Bool.false_ne_true)]

/-- They are as many as are to be read. -/
theorem readBytes_length (msgs : List I2cMsg) : (readBytes msgs).length = readLength msgs := by
  unfold readBytes readLength
  rw [List.length_flatMap]

/-- The first bytes go to the buffer of the first read message, the others to those after it. -/
theorem take_drop_read {buf later : List (BitVec 8)} :
    bytes.take buf.length ++ buf.drop bytes.length ++
        (bytes.drop buf.length ++ later.drop (bytes.drop buf.length).length) =
      bytes ++ (buf ++ later).drop bytes.length := by
  rw [List.drop_append, List.length_drop]
  rcases Nat.le_total bytes.length buf.length with hle | hle
  · rw [List.take_of_length_le hle, List.drop_of_length_le hle, List.nil_append, List.append_assoc]
  · rw [List.drop_of_length_le hle, List.append_nil, List.nil_append, ← List.append_assoc,
      List.take_append_drop]

/-- Bytes that fit are stored. -/
theorem stores_storeReads {msgs : List I2cMsg} (hfits : bytes.length ≤ (readBytes msgs).length) :
    Stores msgs (storeReads msgs bytes) bytes := by
  induction msgs generalizing bytes with
  | nil =>
      obtain rfl : bytes = [] := List.length_eq_zero_iff.mp (Nat.le_zero.mp hfits)
      exact ⟨.nil, rfl⟩
  | cons msg rest ih =>
      cases hread : msg.isRead with
      | false =>
          rw [readBytes_write hread] at hfits
          have hrest := ih hfits
          have hstored : storeReads (msg :: rest) bytes = msg :: storeReads rest bytes := by
            simp [storeReads, hread]
          rw [hstored]
          refine ⟨.cons ⟨rfl, rfl, rfl, fun _ => rfl⟩ hrest.same, ?_⟩
          rw [readBytes_write hread, readBytes_write hread, hrest.filled]
      | true =>
          rw [readBytes_read hread, List.length_append] at hfits
          have hleft : (bytes.drop msg.buf.length).length ≤ (readBytes rest).length := by
            rw [List.length_drop]
            omega
          have hrest := ih hleft
          have hstored : storeReads (msg :: rest) bytes =
              { msg with buf := bytes.take msg.buf.length ++ msg.buf.drop bytes.length } ::
                storeReads rest (bytes.drop msg.buf.length) := by
            simp [storeReads, hread]
          rw [hstored]
          refine ⟨.cons ⟨rfl, rfl, ?_, fun hwrite => ?_⟩ hrest.same, ?_⟩
          · rw [List.length_append, List.length_take, List.length_drop]
            omega
          · exact absurd (hread.symm.trans hwrite) (by decide)
          · rw [readBytes_read hread, readBytes_read (by exact hread), hrest.filled]
            exact take_drop_read

/-! ## Pops -/

/-- The pops of a joined transcript come one after the other. -/
theorem pops_append (first second : List I2cStep) :
    i2c.pops (first ++ second) = i2c.pops first ++ i2c.pops second :=
  readings_append

/-- Quiet steps take nothing from the FIFO. -/
theorem pops_quiet (h : ∀ step ∈ steps, Quiet i2c step.1) : i2c.pops steps = [] := by
  refine readings_eq_nil fun step hstep heq => ?_
  have hquiet := h step hstep
  rw [heq] at hquiet
  exact hquiet rfl

/-- A pop takes its value. -/
theorem pops_cons (value : BitVec 32) :
    i2c.pops (i2c.popStep value :: steps) = value :: i2c.pops steps := by
  unfold I2c.pops I2c.popStep
  rw [readings_rd, if_pos rfl]

/-- Without pops there is nothing to show. -/
theorem PopsReady.of_no_pops (h : i2c.pops steps = []) : PopsReady i2c steps := by
  intro before value after hsplit
  rw [hsplit, pops_append, pops_cons] at h
  exact absurd (List.append_eq_nil_iff.mp h).2 (List.cons_ne_nil _ _)

/-- Transcripts with ready pops can be joined. -/
theorem PopsReady.append {first second : List I2cStep} (hfirst : PopsReady i2c first)
    (hsecond : PopsReady i2c second) : PopsReady i2c (first ++ second) := by
  intro before value after hsplit
  rcases append_eq_append_cons hsplit with ⟨after₁, hin, _⟩ | ⟨before₂, hin, rfl⟩
  · exact hfirst before value after₁ hin
  · obtain ⟨init, reg, rfl, hready⟩ := hsecond before₂ value after hin
    exact ⟨first ++ init, reg, (List.append_assoc _ _ _).symm, hready⟩

/-- A send takes nothing. -/
theorem send_pops {data : BitVec 32} {err : Int} (h : Produces (i2cSend i2c data) steps err) :
    i2c.pops steps = [] := by
  rcases send_cases h with ⟨_, hquiet⟩ | ⟨before, after, rfl, _, hbefore, hafter⟩
  · exact pops_quiet hquiet
  · have hpush : i2c.pops (i2c.pushStep data :: after) = i2c.pops after := rfl
    rw [pops_append, hpush, pops_quiet hbefore, pops_quiet fun step hstep => (hafter step hstep).1]
    rfl

/-- A receive that returns a byte pops it once, on a ready status. -/
theorem recv_pops {data : BitVec 32} (h : Produces (i2cRecv i2c) steps (.ok data)) :
    i2c.pops steps = [data] ∧ PopsReady i2c steps := by
  rcases recv_produces h with ⟨herror, _⟩ | ⟨polls, found, hpoll, rfl, hdata⟩
  · cases herror
  · cases hdata
    have hquiet := (only_poll_rx quiet_status 100).produces hpoll
    have hnone := pops_quiet hquiet
    obtain ⟨init, reg, hlast, hready, _⟩ := pollRx_found hpoll
    constructor
    · rw [pops_append, hnone, List.nil_append]
      exact pops_cons data
    · intro before value after hsplit
      rcases append_eq_append_cons hsplit with ⟨after₁, hin, _⟩ | ⟨before₂, hin, rfl⟩
      · have hmem : i2c.popStep value ∈ polls :=
          hin ▸ List.mem_append_right _ List.mem_cons_self
        exact absurd rfl (hquiet _ hmem)
      · rcases before₂ with _ | ⟨first, before₂⟩
        · exact ⟨init, reg, (List.append_nil polls).trans hlast, hready⟩
        · exact absurd (List.cons.inj hin).2.symm
            (List.append_ne_nil_of_right_ne_nil _ (List.cons_ne_nil _ _))

/-- Neither does a receive that fails. -/
theorem recv_failed_pops (h : Produces (i2cRecv i2c) steps (.error (-eio))) :
    i2c.pops steps = [] := by
  rcases recv_produces h with ⟨_, hpoll⟩ | ⟨_, _, _, _, hdata⟩
  · exact pops_quiet ((only_poll_rx quiet_status 100).produces hpoll)
  · cases hdata

/-- The bytes received are the pops, and every pop is ready. -/
theorem Serves.pops {words : List BusWord} (h : Serves i2c words steps bytes) :
    i2c.popped steps = bytes ∧ PopsReady i2c steps := by
  unfold I2c.popped
  induction h with
  | nil => exact ⟨rfl, .of_no_pops rfl⟩
  | push hsend _ ih =>
      have hsent := send_pops hsend
      rw [pops_append, hsent]
      exact ⟨ih.1, (PopsReady.of_no_pops hsent).append ih.2⟩
  | clock hsend hrecv _ ih =>
      have hsent := send_pops hsend
      obtain ⟨hpopped, hready⟩ := recv_pops hrecv
      rw [pops_append, pops_append, hsent, hpopped]
      exact ⟨congrArg (_ :: ·) ih.1, (PopsReady.of_no_pops hsent).append (hready.append ih.2)⟩

/-- Nor a word that fails. -/
theorem Fails.pops {word : BusWord} (h : Fails i2c word steps) : i2c.pops steps = [] := by
  cases h with
  | send hsend => exact send_pops hsend
  | recv hsend hrecv => rw [pops_append, send_pops hsend, recv_failed_pops hrecv, List.nil_append]

/-- The steps around a transfer take nothing. -/
theorem framed_pops (reg : BitVec 32) : i2c.pops (framed i2c reg steps) = i2c.pops steps := by
  obtain ⟨first, last, hfirst, hlast, hsplit⟩ := framed_split i2c reg
  rw [hsplit, pops_append, pops_append, pops_quiet hfirst, pops_quiet hlast, List.append_nil]
  rfl

/-- They leave its pops ready. -/
theorem framed_pops_ready (reg : BitVec 32) (h : PopsReady i2c steps) :
    PopsReady i2c (framed i2c reg steps) := by
  obtain ⟨first, last, hfirst, hlast, hsplit⟩ := framed_split i2c reg
  rw [hsplit]
  exact (PopsReady.of_no_pops (pops_quiet hfirst)).append
    (h.append (.of_no_pops (pops_quiet hlast)))

/-- For every message list and every sequence of readings: the bytes stored are the pops, one
each, in the order of the read positions, every pop is made on a ready status, and nothing else
changes. A transfer that returns `num` fills every read position; one that returns `-EIO` fails at
a word and fills the read positions before it. -/
theorem xfer_stores_pops (i2c : I2c) (msgs : List I2cMsg) (steps : List I2cStep) (result : Int)
    (msgs' : List I2cMsg) (h : Produces (i2cXfer i2c msgs) steps (result, msgs')) :
    Stores msgs msgs' (i2c.popped steps) ∧ PopsReady i2c steps ∧
      ((result = msgs.length ∧ (i2c.pops steps).length = (readBytes msgs).length) ∨
        (result = -eio ∧ ∃ reg done word rest served failed bytes,
          wireWords msgs = done ++ word :: rest ∧ steps = framed i2c reg (served ++ failed) ∧
          Serves i2c done served bytes ∧ Fails i2c word failed ∧
          (i2c.pops steps).length = done.countP (·.receives))) := by
  obtain ⟨reg, middle, bytes, rfl, rfl, hcases⟩ := xfer_stores h
  have hlength : (readBytes msgs).length = (wireWords msgs).countP (·.receives) :=
    (readBytes_length msgs).trans (receives_wireWords msgs).symm
  have hpopped : ∀ list : List I2cStep, (i2c.pops list).length = (i2c.popped list).length :=
    fun list => (List.length_map _).symm
  have hframed : i2c.popped (framed i2c reg middle) = i2c.popped middle :=
    congrArg (List.map _) (framed_pops reg)
  rw [hpopped, hframed]
  rcases hcases with ⟨hresult, hserved, _⟩ | ⟨hresult, hbreaks⟩
  · obtain ⟨hbytes, hready⟩ := hserved.pops
    have hall : bytes.length = (readBytes msgs).length := hserved.length_bytes.trans hlength.symm
    rw [hbytes]
    exact ⟨stores_storeReads (Nat.le_of_eq hall), framed_pops_ready reg hready,
      .inl ⟨hresult, hall⟩⟩
  · obtain ⟨done, word, rest, served, failed, hwords, rfl, hserved, hfailed⟩ := hbreaks
    obtain ⟨hbytes, hready⟩ := hserved.pops
    have hsome : i2c.popped (served ++ failed) = bytes := by
      rw [I2c.popped, pops_append, hfailed.pops, List.append_nil]
      exact hbytes
    have hcount := hserved.length_bytes
    rw [hwords, List.countP_append] at hlength
    rw [hsome]
    refine ⟨stores_storeReads (by omega),
      framed_pops_ready reg (hready.append (.of_no_pops hfailed.pops)), .inr ⟨hresult, ?_⟩⟩
    exact ⟨reg, done, word, rest, served, failed, bytes, hwords, rfl, hserved, hfailed, hcount⟩

/-- The register read takes two bytes on a ready controller. -/
theorem register_read_stores :
    Stores registerRead
      ((i2cXfer I2c.plain registerRead).run (i2cWorld fun _ => 0x40) 0).1.2
      (I2c.plain.popped ((i2cXfer I2c.plain registerRead).transcript (i2cWorld fun _ => 0x40) 0)) :=
  (xfer_stores_pops I2c.plain registerRead _ _ _ (produces_run_pair (i2cWorld fun _ => 0x40) _ 0)).1

end Saa7231
