import Saa7231.I2c.ReceivePath
import Mathlib.Algebra.GroupWithZero.Nat

/-!
# Which bytes a read returns

The receives of a bus take the clocked bytes in order, one after the other, across all transfers
(`RxPath.InOrder`). A transfer that returns `num` takes as many as it clocks. One that fails
between a dummy and its receive leaves a byte behind, and nothing ever discards it: later reads
are shifted by the bytes left behind so far.
-/

namespace Saa7231

open Interaction Bus Program

variable {i2c : I2c} {produced : Nat → BitVec 8} {steps : List I2cStep}

/-! ## Dummies are pushed in reads only -/

/-- The words that are followed by a receive are the dummies of reads, where `mode` is the
direction of the message that is open. -/
def Coherent : Bool → List BusWord → Prop
  | _, [] => True
  | mode, word :: rest =>
      if starts word.word then
        word.receives = false ∧ Coherent (word.word.getLsbD 0) rest
      else
        word.receives = mode ∧ Coherent mode rest

/-- The word of an address carries the start bit. -/
theorem starts_addressWord (msg : I2cMsg) : starts (addressWord msg) = true := by
  have hbit : (addressWord msg &&& i2cStartBit).getLsbD 8 = true := by
    unfold addressWord
    cases msg.isRead <;> simp [i2cStartBit]
  rw [starts, bne_iff_ne]
  intro hzero
  rw [hzero] at hbit
  cases hbit

/-- Its lowest bit is the direction. -/
theorem direction_addressWord (msg : I2cMsg) : (addressWord msg).getLsbD 0 = msg.isRead := by
  unfold addressWord
  cases msg.isRead <;> simp [i2cStartBit]

/-- The words of a message's bytes keep its direction. -/
theorem coherent_byteWords (read final : Bool) (buf : List (BitVec 8)) {words : List BusWord}
    (h : Coherent read words) : Coherent read (byteWords read final buf ++ words) := by
  induction buf with
  | nil => exact h
  | cons byte rest ih =>
      rw [byteWords, List.cons_append, Coherent, starts_dataWord]
      exact ⟨rfl, ih⟩

/-- So do the words of a transfer. -/
theorem coherent_wireWords (mode : Bool) (msgs : List I2cMsg) :
    Coherent mode (wireWords msgs) := by
  induction msgs generalizing mode with
  | nil => trivial
  | cons msg rest ih =>
      rw [wireWords, msgWords, List.cons_append, Coherent, starts_addressWord,
        direction_addressWord]
      exact ⟨rfl, coherent_byteWords _ _ _ (ih _)⟩

/-- A word without a receive clocks nothing. -/
theorem push_word (produced : Nat → BitVec 8) {path : RxPath} {word : BitVec 32}
    {rest : List BusWord} (h : Coherent path.reading (⟨word, false⟩ :: rest)) :
    (path.push produced word).dummies = path.dummies ∧
      (path.push produced word).taken = path.taken ∧
      (path.push produced word).unread = path.unread ∧
      Coherent (path.push produced word).reading rest := by
  rw [Coherent] at h
  unfold RxPath.push
  split at h
  next hstart =>
    rw [if_pos hstart]
    exact ⟨rfl, rfl, rfl, h.2⟩
  next hstart =>
    rw [if_neg hstart, ← h.1, if_neg Bool.false_ne_true]
    exact ⟨rfl, rfl, rfl, h.2⟩

/-- A dummy clocks one byte. -/
theorem push_dummy (produced : Nat → BitVec 8) {path : RxPath} {word : BitVec 32}
    {rest : List BusWord} (h : Coherent path.reading (⟨word, true⟩ :: rest)) :
    (path.push produced word).dummies = path.dummies + 1 ∧
      (path.push produced word).taken = path.taken ∧
      (path.push produced word).unread = path.unread ++ [produced path.dummies] ∧
      Coherent (path.push produced word).reading rest := by
  rw [Coherent] at h
  unfold RxPath.push
  split at h
  next => cases h.1
  next hstart =>
    have hreading : path.reading = true := h.1.symm
    rw [if_neg hstart, if_pos hreading]
    exact ⟨rfl, rfl, by simp [RxPath.unread], h.2⟩

/-! ## Conservation of bytes -/

/-- The bytes that consecutive dummies clock. -/
def clocked (produced : Nat → BitVec 8) (start count : Nat) : List (BitVec 8) :=
  (List.range' start count).map produced

/-- Bytes are clocked one after the other. -/
theorem clocked_add (start first second : Nat) :
    clocked produced start (first + second) =
      clocked produced start first ++ clocked produced (start + first) second := by
  rw [clocked, ← List.range'_append_1, List.map_append]
  rfl

/-- The path before and after `count` dummies and the receives of `bytes`. -/
structure Passes (produced : Nat → BitVec 8) (path path' : RxPath) (count : Nat)
    (bytes : List (BitVec 8)) : Prop where
  dummies : path'.dummies = path.dummies + count
  taken : path'.taken = path.taken + bytes.length
  queue : path.unread ++ clocked produced path.dummies count = bytes ++ path'.unread

/-- A path that stays as it is passes nothing. -/
theorem RxPath.Same.passes {path path' : RxPath} (h : path.Same path') :
    Passes produced path path' 0 [] :=
  ⟨h.dummies, h.taken, (List.append_nil _).trans h.unread.symm⟩

/-- Passages follow one another. -/
theorem Passes.trans {path path' path'' : RxPath} {first second : Nat}
    {bytes bytes' : List (BitVec 8)} (h : Passes produced path path' first bytes)
    (h' : Passes produced path' path'' second bytes') :
    Passes produced path path'' (first + second) (bytes ++ bytes') where
  dummies := by rw [h'.dummies, h.dummies, Nat.add_assoc]
  taken := by rw [h'.taken, h.taken, List.length_append, Nat.add_assoc]
  queue := by
    rw [clocked_add, ← List.append_assoc, h.queue, List.append_assoc, ← h.dummies, h'.queue,
      List.append_assoc]

/-- A word without a byte passes none. -/
theorem send_passes {path path' : RxPath} {word : BitVec 32} {rest : List BusWord}
    (hsend : Produces (i2cSend i2c word) steps 0) (h : Receives i2c produced path steps path')
    (hwords : Coherent path.reading (⟨word, false⟩ :: rest)) :
    Passes produced path path' 0 [] ∧ Coherent path'.reading rest := by
  obtain ⟨hdummies, htaken, hunread, hrest⟩ := push_word produced hwords
  have hsame := receives_send hsend h
  refine ⟨⟨hsame.dummies.trans hdummies, hsame.taken.trans htaken, ?_⟩, hsame.reading ▸ hrest⟩
  exact (List.append_nil _).trans (hsame.unread.trans hunread).symm

/-- A dummy word clocks one byte. -/
theorem dummy_passes {path path' : RxPath} {word : BitVec 32} {rest : List BusWord}
    (hsend : Produces (i2cSend i2c word) steps 0) (h : Receives i2c produced path steps path')
    (hwords : Coherent path.reading (⟨word, true⟩ :: rest)) :
    Passes produced path path' 1 [] ∧ Coherent path'.reading rest := by
  obtain ⟨hdummies, htaken, hunread, hrest⟩ := push_dummy produced hwords
  have hsame := receives_send hsend h
  refine ⟨⟨hsame.dummies.trans hdummies, hsame.taken.trans htaken, ?_⟩, hsame.reading ▸ hrest⟩
  exact (hsame.unread.trans hunread).symm

/-- Served words clock and take one byte for each dummy. -/
theorem Serves.passes {words tail : List BusWord} {bytes : List (BitVec 8)}
    {path path' : RxPath} (hserved : Serves i2c words steps bytes)
    (h : Receives i2c produced path steps path') (hwords : Coherent path.reading (words ++ tail)) :
    Passes produced path path' bytes.length bytes ∧ Coherent path'.reading tail := by
  induction hserved generalizing path with
  | nil =>
      have hsame := receives_nil h
      exact ⟨hsame.passes, hsame.reading ▸ hwords⟩
  | push hsend _ ih =>
      obtain ⟨path₁, hsent, hrest⟩ := receives_append h
      obtain ⟨hpass, hwords₁⟩ := send_passes hsend hsent hwords
      obtain ⟨hpass', htail⟩ := ih hrest hwords₁
      exact ⟨by simpa using hpass.trans hpass', htail⟩
  | @clock word data rest sent taken steps bytes hsend hrecv _ ih =>
      obtain ⟨path₁, hsent, hrest⟩ := receives_append h
      obtain ⟨path₂, htaken, hrest₂⟩ := receives_append hrest
      obtain ⟨hpass₁, hwords₁⟩ := dummy_passes hsend hsent hwords
      obtain ⟨hqueue, hcount, hdummies, hreading⟩ := receives_recv hrecv htaken
      have hpass₂ : Passes produced path₁ path₂ 0 [data.setWidth 8] :=
        ⟨hdummies, hcount, (List.append_nil _).trans hqueue⟩
      obtain ⟨hpass₃, htail⟩ := ih hrest₂ (hreading ▸ hwords₁)
      have hall := (hpass₁.trans hpass₂).trans hpass₃
      exact ⟨by simpa [Nat.add_comm] using hall, htail⟩

/-- A word that failed takes nothing and clocks at most one byte. -/
theorem Fails.passes {word : BusWord} {tail : List BusWord} {path path' : RxPath}
    (hfailed : Fails i2c word steps) (h : Receives i2c produced path steps path')
    (hwords : Coherent path.reading (word :: tail)) :
    ∃ left ≤ 1, Passes produced path path' left [] := by
  cases hfailed with
  | @send _ _ hsend =>
      obtain hsame | hsame := receives_send_failed hsend h
      · exact ⟨0, Nat.zero_le 1, hsame.passes⟩
      · obtain ⟨word, receives⟩ := word
        cases receives with
        | false =>
            obtain ⟨hdummies, htaken, hunread, _⟩ := push_word produced hwords
            exact ⟨0, Nat.zero_le 1, hsame.dummies.trans hdummies, hsame.taken.trans htaken,
              (List.append_nil _).trans (hsame.unread.trans hunread).symm⟩
        | true =>
            obtain ⟨hdummies, htaken, hunread, _⟩ := push_dummy produced hwords
            exact ⟨1, Nat.le_refl 1, hsame.dummies.trans hdummies, hsame.taken.trans htaken,
              (hsame.unread.trans hunread).symm⟩
  | recv hsend hrecv =>
      obtain ⟨path₁, hsent, hrest⟩ := receives_append h
      obtain ⟨hpass, _⟩ := dummy_passes hsend hsent hwords
      have hsame := receives_recv_failed hrecv hrest
      exact ⟨1, Nat.le_refl 1, by simpa using hpass.trans hsame.passes⟩

/-! ## One transfer -/

/-- The number of bytes that the reads of a message list request. -/
def readLength (msgs : List I2cMsg) : Nat :=
  ((msgs.filter (·.isRead)).map (·.buf.length)).sum

/-- The words that clock a byte are as many as the bytes to be read. -/
theorem receives_wireWords (msgs : List I2cMsg) :
    (wireWords msgs).countP (·.receives) = readLength msgs := by
  induction msgs with
  | nil => rfl
  | cons msg rest ih =>
      rw [wireWords, List.countP_append, ih, msgWords, List.countP_cons_of_neg (by simp),
        receives_byteWords, readLength, readLength, List.filter_cons]
      cases msg.isRead with
      | true => rfl
      | false => exact Nat.zero_add _

/-- Locking and the GO bit leave the path alone. -/
theorem receives_framed {path path' : RxPath} {reg : BitVec 32}
    (h : Receives i2c produced path (framed i2c reg steps) path') :
    ∃ before after, path.Same before ∧ Receives i2c produced before steps after ∧
      after.Same path' := by
  obtain ⟨first, last, hfirst, hlast, hsplit⟩ := framed_split i2c reg
  rw [hsplit] at h
  obtain ⟨before, hopen, hrest⟩ := receives_append h
  obtain ⟨after, hmiddle, hclose⟩ := receives_append hrest
  exact ⟨before, after, receives_quiet hopen hfirst, hmiddle, receives_quiet hclose hlast⟩

/-- A transfer takes the bytes of its dummies' number from the queue, less at most one when it
fails; when it returns `num`, it stores what it took. -/
theorem xfer_passes {msgs msgs' : List I2cMsg} {result : Int} {path path' : RxPath}
    (hrun : Produces (i2cXfer i2c msgs) steps (result, msgs'))
    (h : Receives i2c produced path steps path') :
    ∃ bytes left, left ≤ 1 ∧ Passes produced path path' (bytes.length + left) bytes ∧
      (result = msgs.length →
        left = 0 ∧ bytes.length = readLength msgs ∧ msgs' = fillReads msgs bytes) := by
  obtain ⟨reg, middle, rfl, hcases⟩ := xfer_produces hrun
  obtain ⟨before, after, hbefore, hmiddle, hafter⟩ := receives_framed h
  have hwords := coherent_wireWords before.reading msgs
  obtain ⟨_, bytes, hserved, hfilled⟩ | ⟨hfailed, hbreaks⟩ := hcases
  · obtain ⟨hpass, _⟩ := @Serves.passes _ _ _ _ [] _ _ _ hserved hmiddle (by simpa using hwords)
    have hall := (hbefore.passes.trans hpass).trans hafter.passes
    refine ⟨bytes, 0, Nat.zero_le 1, by simpa using hall, fun _ => ⟨rfl, ?_, hfilled⟩⟩
    rw [hserved.length_bytes, receives_wireWords]
  · obtain ⟨done, word, rest, served, failed, bytes, heq, rfl, hserved, hfails⟩ := hbreaks
    rw [heq] at hwords
    obtain ⟨path₁, hfirst, hlast⟩ := receives_append hmiddle
    obtain ⟨hpass, htail⟩ := hserved.passes hfirst hwords
    obtain ⟨left, hleft, hpass'⟩ := hfails.passes hlast htail
    have hall := ((hbefore.passes.trans hpass).trans hpass').trans hafter.passes
    refine ⟨bytes, left, hleft, by simpa using hall, fun hresult => ?_⟩
    have hnegative : -eio < 0 := by decide
    omega

/-! ## Runs of transfers on one bus -/

/-- The bytes not yet taken are those of the last dummies, in the order of the dummies. -/
structure RxPath.InOrder (produced : Nat → BitVec 8) (path : RxPath) : Prop where
  taken_le : path.taken ≤ path.dummies
  unread : path.unread = clocked produced path.taken (path.dummies - path.taken)

/-- An empty path is in order. -/
theorem in_order_empty : RxPath.empty.InOrder produced := ⟨Nat.le_refl 0, rfl⟩

/-- From a path in order, the next bytes taken are those of the dummies next in order. -/
theorem RxPath.InOrder.passes {path path' : RxPath} {bytes : List (BitVec 8)} {left : Nat}
    (h : path.InOrder produced) (hpass : Passes produced path path' (bytes.length + left) bytes) :
    path'.InOrder produced ∧ bytes = clocked produced path.taken bytes.length := by
  have hle := h.taken_le
  have hqueue := hpass.queue
  have hstart : path.dummies = path.taken + (path.dummies - path.taken) := by omega
  have hcount : path.dummies - path.taken + (bytes.length + left) =
      bytes.length + (path.dummies - path.taken + left) := by omega
  rw [h.unread, hstart, Nat.add_sub_cancel_left, ← clocked_add, hcount, clocked_add] at hqueue
  have hlength : (clocked produced path.taken bytes.length).length = bytes.length := by
    simp [clocked]
  obtain ⟨hbytes, hrest⟩ := List.append_inj hqueue hlength
  have hdummies := hpass.dummies
  have htaken := hpass.taken
  refine ⟨⟨by omega, ?_⟩, hbytes.symm⟩
  rw [← hrest, htaken]
  congr 1
  omega

/-- A transfer, with the receive path before and after it. -/
structure Transfer where
  msgs : List I2cMsg
  steps : List I2cStep
  result : Int
  msgs' : List I2cMsg
  start : RxPath
  finish : RxPath

namespace Transfer

/-- The transfer is one that the driver and the controller can make. -/
structure Ran (i2c : I2c) (produced : Nat → BitVec 8) (transfer : Transfer) : Prop where
  xfer : Produces (i2cXfer i2c transfer.msgs) transfer.steps (transfer.result, transfer.msgs')
  path : Receives i2c produced transfer.start transfer.steps transfer.finish

/-- The bytes of the transfer's own dummies. -/
def ownBytes (produced : Nat → BitVec 8) (transfer : Transfer) : List (BitVec 8) :=
  clocked produced transfer.start.dummies (transfer.finish.dummies - transfer.start.dummies)

/-- How many dummies the transfer pushed beyond the bytes that it took. -/
def leftBehind (transfer : Transfer) : Nat :=
  (transfer.finish.dummies - transfer.start.dummies) -
    (transfer.finish.taken - transfer.start.taken)

end Transfer

/-- Transfers one after the other, from a receive path on. -/
inductive BusRun (i2c : I2c) (produced : Nat → BitVec 8) : RxPath → List Transfer → Prop
  | nil (path : RxPath) : BusRun i2c produced path []
  | cons {transfer : Transfer} {rest : List Transfer} (hran : transfer.Ran i2c produced)
      (hrest : BusRun i2c produced transfer.finish rest) :
      BusRun i2c produced transfer.start (transfer :: rest)

/-- One transfer: it leaves at most one byte behind, and none when it returns `num`. -/
theorem Transfer.Ran.step {transfer : Transfer} (h : transfer.Ran i2c produced)
    (hpath : transfer.start.InOrder produced) :
    transfer.finish.InOrder produced ∧ transfer.leftBehind ≤ 1 ∧
      transfer.finish.dummies - transfer.finish.taken =
        transfer.start.dummies - transfer.start.taken + transfer.leftBehind ∧
      (transfer.result = transfer.msgs.length → transfer.leftBehind = 0 ∧
        transfer.finish.dummies = transfer.start.dummies + readLength transfer.msgs ∧
        transfer.msgs' = fillReads transfer.msgs
          (clocked produced transfer.start.taken (readLength transfer.msgs))) := by
  obtain ⟨bytes, left, hleft, hpass, hsuccess⟩ := xfer_passes h.xfer h.path
  obtain ⟨horder, hbytes⟩ := hpath.passes hpass
  have hdummies := hpass.dummies
  have htaken := hpass.taken
  have hle := hpath.taken_le
  have hbehind : transfer.leftBehind = left := by
    unfold Transfer.leftBehind
    omega
  refine ⟨horder, by omega, by omega, fun hresult => ?_⟩
  obtain ⟨hzero, hlength, hfilled⟩ := hsuccess hresult
  rw [hlength] at hbytes
  exact ⟨by omega, by omega, hbytes ▸ hfilled⟩

/-- A run from a path in order: the bytes left behind so far are the dummies not yet taken. -/
theorem BusRun.transfer {path : RxPath} {earlier later : List Transfer} {transfer : Transfer}
    (hpath : path.InOrder produced)
    (h : BusRun i2c produced path (earlier ++ transfer :: later)) :
    transfer.Ran i2c produced ∧ transfer.start.InOrder produced ∧
      transfer.start.dummies - transfer.start.taken =
        path.dummies - path.taken + (earlier.map (·.leftBehind)).sum ∧
      ∀ other ∈ earlier, other.leftBehind ≤ 1 ∧
        (other.result = other.msgs.length → other.leftBehind = 0) := by
  induction earlier generalizing path with
  | nil =>
      cases h with
      | cons hran _ =>
          exact ⟨hran, hpath, rfl, fun other hother => absurd hother List.not_mem_nil⟩
  | cons first earlier ih =>
      cases h with
      | cons hran hrest =>
          obtain ⟨horder, hone, hleft, hsuccess⟩ := hran.step hpath
          obtain ⟨hlast, hstart, hsum, hother⟩ := ih horder hrest
          refine ⟨hlast, hstart, ?_, ?_⟩
          · rw [List.map_cons, List.sum_cons]
            omega
          · intro other hmem
            cases hmem with
            | head => exact ⟨hone, fun hresult => (hsuccess hresult).1⟩
            | tail _ htail => exact hother other htail

/-- A transfer that returns `num` stores the bytes of its own dummies when no earlier transfer
left a byte behind. Otherwise it stores the bytes clocked that many places earlier. A transfer
leaves at most one byte behind, and none when it returns `num`. -/
theorem reads_own_bytes (i2c : I2c) (produced : Nat → BitVec 8) (earlier later : List Transfer)
    (transfer : Transfer)
    (hrun : BusRun i2c produced .empty (earlier ++ transfer :: later))
    (hresult : transfer.result = transfer.msgs.length) :
    ((earlier.map (·.leftBehind)).sum = 0 →
        transfer.msgs' = fillReads transfer.msgs (transfer.ownBytes produced)) ∧
      transfer.msgs' = fillReads transfer.msgs
        (clocked produced (transfer.start.dummies - (earlier.map (·.leftBehind)).sum)
          (readLength transfer.msgs)) ∧
      transfer.ownBytes produced =
        clocked produced transfer.start.dummies (readLength transfer.msgs) ∧
      ∀ other ∈ earlier, other.leftBehind ≤ 1 ∧
        (other.result = other.msgs.length → other.leftBehind = 0) := by
  obtain ⟨hran, horder, hleft, hother⟩ := hrun.transfer in_order_empty
  obtain ⟨_, _, _, hsuccess⟩ := hran.step horder
  obtain ⟨_, hdummies, hfilled⟩ := hsuccess hresult
  have hown : transfer.ownBytes produced =
      clocked produced transfer.start.dummies (readLength transfer.msgs) := by
    rw [Transfer.ownBytes, hdummies, Nat.add_sub_cancel_left]
  have hshift : transfer.start.taken =
      transfer.start.dummies - (earlier.map (·.leftBehind)).sum := by
    have hle := horder.taken_le
    have hzero : RxPath.empty.dummies - RxPath.empty.taken = 0 := rfl
    omega
  rw [hshift] at hfilled
  refine ⟨fun hnone => ?_, hfilled, hown, hother⟩
  rw [hnone] at hfilled
  rw [hown]
  exact hfilled

/-! ## A byte that comes too late -/

/-- The path when the byte due before an operation has arrived, where `lands` numbers the
operations before which a byte arrives. -/
def RxPath.settle (lands : Nat → Bool) (path : RxPath) (time : Nat) : RxPath :=
  if lands time then
    match path.inFlight with
    | [] => path
    | byte :: rest => path.land byte rest
  else
    path

/-- The reading of a register, on a controller whose transmit path is always ready. -/
def RxPath.readout (i2c : I2c) (path : RxPath) (address : Nat) : BitVec 32 :=
  if address = i2c.dev + i2cStatus then
    if path.fifo.isEmpty then txFifoEmpty ||| rxFifoEmpty else txFifoEmpty
  else if address = i2c.dev + rxFifo then
    (path.fifo.headD 0).setWidth 32
  else
    0

/-- That controller; the second component numbers the operations. -/
def rxWorld (i2c : I2c) (produced : Nat → BitVec 8) (lands : Nat → Bool) :
    World (BusOp I2cOp) (BusAns I2cAns) (RxPath × Nat) where
  answer op state := match op with
    | .rd address => (state.1.settle lands state.2).readout i2c address
    | .wr _ _ | .delay _ | .extra _ => ()
  after op state := ((state.1.settle lands state.2).after i2c produced op, state.2 + 1)

/-- Bytes that land before a transcript may as well land within it. -/
theorem receives_settle {lands : Nat → Bool} {path path' : RxPath} {time : Nat}
    (h : Receives i2c produced (path.settle lands time) steps path') :
    Receives i2c produced path steps path' := by
  unfold RxPath.settle at h
  split at h
  next =>
    split at h
    next => exact h
    next hfly => exact .land hfly h
  next => exact h

/-- The status shows whether a byte is there. -/
theorem readout_shows (path : RxPath) : path.Shows (path.readout i2c (i2c.dev + i2cStatus)) := by
  rw [RxPath.Shows, RxPath.readout, if_pos rfl]
  cases path.fifo with
  | nil => simp [txFifoEmpty, rxFifoEmpty]
  | cons => simp [txFifoEmpty, rxFifoEmpty]

/-- The queue gives its oldest byte. -/
theorem readout_gives (path : RxPath) : path.Gives (path.readout i2c (i2c.dev + rxFifo)) := by
  intro byte hbyte
  rw [RxPath.readout, if_neg (Ne.symm quiet_status), if_pos rfl]
  cases hfifo : path.fifo with
  | nil =>
      rw [hfifo] at hbyte
      cases hbyte
  | cons first rest =>
      rw [hfifo] at hbyte
      cases hbyte
      simp

/-- The controller's answers are those of the path. -/
theorem rxWorld_answers (lands : Nat → Bool) (op : BusOp I2cOp) (state : RxPath × Nat) :
    (state.1.settle lands state.2).Answers i2c
      ⟨op, (rxWorld i2c produced lands).answer op state⟩ := by
  cases op with
  | wr | delay | extra => trivial
  | rd address =>
      constructor
      · rintro rfl
        exact readout_shows _
      · rintro rfl
        exact readout_gives _

/-- Every run on this controller is one that the receive path allows. -/
theorem receives_run {α : Type} (lands : Nat → Bool) (program : I2cProgram α)
    (state : RxPath × Nat) :
    Receives i2c produced state.1 (program.transcript (rxWorld i2c produced lands) state)
      (program.run (rxWorld i2c produced lands) state).2.1 := by
  induction program generalizing state with
  | ret value => exact .nil state.1
  | call op next ih =>
      refine receives_settle (.step (rxWorld_answers lands op state) ?_)
      exact ih _ ((rxWorld i2c produced lands).after op state)

/-- A transfer on this controller. -/
def transferOn (i2c : I2c) (produced : Nat → BitVec 8) (lands : Nat → Bool) (msgs : List I2cMsg)
    (state : RxPath × Nat) : Transfer :=
  let final := (i2cXfer i2c msgs).run (rxWorld i2c produced lands) state
  { msgs := msgs
    steps := (i2cXfer i2c msgs).transcript (rxWorld i2c produced lands) state
    result := final.1.1
    msgs' := final.1.2
    start := state.1
    finish := final.2.1 }

/-- A transfer on that controller is one that ran. -/
theorem transferOn_ran (lands : Nat → Bool) (msgs : List I2cMsg) (state : RxPath × Nat) :
    (transferOn i2c produced lands msgs state).Ran i2c produced :=
  ⟨produces_run _ _ _, receives_run lands _ _⟩

/-- Two transfers after one another. -/
theorem transferOn_run (lands : Nat → Bool) (first second : List I2cMsg) (state : RxPath × Nat)
    (time : Nat) :
    BusRun i2c produced state.1 [transferOn i2c produced lands first state,
      transferOn i2c produced lands second
        ((transferOn i2c produced lands first state).finish, time)] := by
  have hfirst : (transferOn i2c produced lands first state).start = state.1 := rfl
  rw [← hfirst]
  exact .cons (transferOn_ran lands first state)
    (.cons (transferOn_ran lands second (_, time)) (.nil _))

/-- A read of one byte. -/
def byteRead : List I2cMsg := [⟨0x50, i2cMRd, [0xff]⟩]

/-- No byte arrives during the first transfer, and every byte at once from the second on. -/
def late (time : Nat) : Bool := 112 ≤ time

/-- The read whose byte comes too late. -/
def timedOut : Transfer := transferOn I2c.plain (BitVec.ofNat 8) late byteRead (.empty, 0)

/-- The same read once more. -/
def retried : Transfer :=
  transferOn I2c.plain (BitVec.ofNat 8) late byteRead (timedOut.finish, 112)

/-- The two reads follow one another. -/
theorem retried_run :
    BusRun I2c.plain (BitVec.ofNat 8) .empty ([timedOut] ++ retried :: []) :=
  transferOn_run late byteRead byteRead (.empty, 0) 112

/-- The second read returns `num`. -/
theorem retried_result : retried.result = retried.msgs.length := by decide +kernel

/-- It reads the oldest byte that was left behind. -/
theorem retried_reads_oldest :
    retried.msgs' = fillReads retried.msgs (clocked (BitVec.ofNat 8)
      (retried.start.dummies - (([timedOut].map (·.leftBehind)).sum))
      (readLength retried.msgs)) :=
  (reads_own_bytes I2c.plain (BitVec.ofNat 8) [timedOut] [] retried retried_run
    retried_result).2.1

/-- The second read returns `num` and the byte of the first. -/
theorem retried_reads_stale_byte :
    ¬ ∀ (i2c : I2c) (produced : Nat → BitVec 8) (earlier later : List Transfer)
      (transfer : Transfer), BusRun i2c produced .empty (earlier ++ transfer :: later) →
        transfer.result = transfer.msgs.length →
          transfer.msgs' = fillReads transfer.msgs (transfer.ownBytes produced) := by
  intro hreadsOwn
  have hown := hreadsOwn _ _ _ _ _ retried_run retried_result
  have hstale : retried.msgs' ≠
      fillReads retried.msgs (retried.ownBytes (BitVec.ofNat 8)) := by decide +kernel
  exact hstale hown

end Saa7231
