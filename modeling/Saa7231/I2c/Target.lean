import Saa7231.I2c.OwnBytes

/-!
# A device on the bus

`I2cTarget` is what a device does on a START, on a byte written or read, and on a STOP; its
`transfer` is what a list of messages means to it. `Wired` is the controller with such a device
behind its FIFOs, over all delays of the bytes that are read. `xfer_refines` says that a transfer
that returns `num` is a `transfer` of the device: it stores the bytes of the device, brings the
device to the state after the messages and the STOP, and leaves no byte behind.
-/

namespace Saa7231

open Interaction Bus Program

/-! ## What messages mean to a device -/

/-- A device, as the events of the bus reach it. -/
structure I2cTarget (τ : Type) where
  start : BitVec 7 → Bool → τ → τ
  write : BitVec 8 → τ → τ
  read : τ → BitVec 8 × τ
  stop : τ → τ

namespace I2cTarget

variable {τ : Type} (target : I2cTarget τ)

/-- The bytes of a message go by: a read takes the place of the byte in the buffer. -/
def moveBytes (read : Bool) : List (BitVec 8) → τ → List (BitVec 8) × τ
  | [], state => ([], state)
  | byte :: rest, state =>
      if read then
        ((target.read state).1 :: (moveBytes read rest (target.read state).2).1,
          (moveBytes read rest (target.read state).2).2)
      else
        (byte :: (moveBytes read rest (target.write byte state)).1,
          (moveBytes read rest (target.write byte state)).2)

/-- One message: a START with the address, and the bytes. -/
def message (msg : I2cMsg) (state : τ) : I2cMsg × τ :=
  let moved := target.moveBytes msg.isRead msg.buf
    (target.start (msg.addr.setWidth 7) msg.isRead state)
  ({ msg with buf := moved.1 }, moved.2)

/-- The messages one after the other. -/
def messages : List I2cMsg → τ → List I2cMsg × τ
  | [], state => ([], state)
  | msg :: rest, state =>
      ((target.message msg state).1 :: (messages rest (target.message msg state).2).1,
        (messages rest (target.message msg state).2).2)

/-- A transfer: the messages, and the STOP at the end. -/
def transfer (msgs : List I2cMsg) (state : τ) : List I2cMsg × τ :=
  ((target.messages msgs state).1, target.stop (target.messages msgs state).2)

/-! ## What words mean to a device -/

/-- The direction after a word. -/
def direction (reading : Bool) (word : BitVec 32) : Bool :=
  if starts word then word.getLsbD 0 else reading

/-- The device after a word that is pushed while messages go in a direction. -/
def feed (reading : Bool) (word : BitVec 32) (state : τ) : τ :=
  let moved :=
    if starts word then target.start (word.extractLsb' 1 7) (word.getLsbD 0) state
    else if reading then (target.read state).2
    else target.write (word.setWidth 8) state
  if stops word then target.stop moved else moved

/-- The bytes that are received for the words, and the device after them. -/
def feedWords : Bool → List BusWord → τ → List (BitVec 8) × τ
  | _, [], state => ([], state)
  | reading, word :: rest, state =>
      let later := feedWords (direction reading word.word) rest
        (target.feed reading word.word state)
      (if word.receives then (target.read state).1 :: later.1 else later.1, later.2)

end I2cTarget

section Feed

variable {τ : Type} {target : I2cTarget τ}

theorem feed_address {msg : I2cMsg} (hseven : msg.addr < 128) (reading : Bool) (state : τ) :
    target.feed reading (addressWord msg) state =
      target.start (msg.addr.setWidth 7) msg.isRead state := by
  obtain ⟨hstart, hstop, haddress, hread⟩ := addressWord_decodes hseven
  unfold I2cTarget.feed
  dsimp only
  rw [if_pos hstart, hstop, if_neg Bool.false_ne_true, haddress, hread]

theorem feed_data (read last : Bool) (byte : BitVec 8) (state : τ) :
    target.feed read (dataWord read last byte) state =
      let moved := if read then (target.read state).2 else target.write byte state
      if last then target.stop moved else moved := by
  unfold I2cTarget.feed
  dsimp only
  rw [starts_dataWord, if_neg Bool.false_ne_true, stops_dataWord, low_dataWord]
  cases read <;> rfl

theorem direction_data (read last : Bool) (byte : BitVec 8) :
    I2cTarget.direction read (dataWord read last byte) = read := by
  unfold I2cTarget.direction
  rw [starts_dataWord, if_neg Bool.false_ne_true]

/-- The words of the bytes of a message, before other words: the STOP bit of a final message takes
effect after its last byte. -/
theorem feed_byteWords (read final : Bool) (buf : List (BitVec 8)) (words : List BusWord)
    (state : τ) :
    target.feedWords read (byteWords read final buf ++ words) state =
      let moved := target.moveBytes read buf state
      let later := target.feedWords read words
        (if final && !buf.isEmpty then target.stop moved.2 else moved.2)
      (if read then moved.1 ++ later.1 else later.1, later.2) := by
  induction buf generalizing state with
  | nil => cases final <;> cases read <;> rfl
  | cons byte rest ih =>
      rw [byteWords, List.cons_append, I2cTarget.feedWords, direction_data, feed_data]
      cases rest with
      | nil => cases final <;> cases read <;> rfl
      | cons next rest =>
          rw [List.isEmpty_cons, Bool.and_false, if_neg Bool.false_ne_true]
          cases read with
          | false =>
              dsimp only
              rw [if_neg Bool.false_ne_true, ih]
              rfl
          | true =>
              dsimp only
              rw [if_pos rfl, ih]
              rfl

theorem moveBytes_length (read : Bool) (buf : List (BitVec 8)) (state : τ) :
    (target.moveBytes read buf state).1.length = buf.length := by
  induction buf generalizing state with
  | nil => rfl
  | cons byte rest ih =>
      unfold I2cTarget.moveBytes
      split <;> exact congrArg Nat.succ (ih _)

/-- Bytes that are written stay as they are. -/
theorem moveBytes_write (buf : List (BitVec 8)) (state : τ) :
    (target.moveBytes false buf state).1 = buf := by
  induction buf generalizing state with
  | nil => rfl
  | cons byte rest ih => exact congrArg (byte :: ·) (ih _)

/-- Filling the reads with the bytes of the first message, and then with others. -/
theorem fillReads_message (msg : I2cMsg) (rest : List I2cMsg) (state : τ)
    (bytes : List (BitVec 8)) :
    fillReads (msg :: rest)
        (if msg.isRead then (target.message msg state).1.buf ++ bytes else bytes) =
      (target.message msg state).1 :: fillReads rest bytes := by
  rw [fillReads, I2cTarget.message]
  cases hread : msg.isRead with
  | true =>
      dsimp only
      rw [if_pos rfl, if_pos rfl, List.take_left' (moveBytes_length _ _ _),
        List.drop_left' (moveBytes_length _ _ _)]
  | false =>
      dsimp only
      rw [if_neg Bool.false_ne_true, if_neg Bool.false_ne_true, moveBytes_write]

variable (target) in
/-- The words of a message list whose last message has a byte mean the transfer: the bytes fill
the reads, and the STOP comes at the end. -/
theorem feed_wireWords {msgs : List I2cMsg} (hseven : ∀ msg ∈ msgs, msg.addr < 128)
    (hne : msgs ≠ []) (hlast : (msgs.getLast hne).buf ≠ []) (reading : Bool) (state : τ) :
    fillReads msgs (target.feedWords reading (wireWords msgs) state).1 =
        (target.transfer msgs state).1 ∧
      (target.feedWords reading (wireWords msgs) state).2 = (target.transfer msgs state).2 := by
  induction msgs generalizing reading state with
  | nil => exact absurd rfl hne
  | cons msg rest ih =>
      have haddr := hseven msg List.mem_cons_self
      have hdirection : I2cTarget.direction reading (addressWord msg) = msg.isRead := by
        unfold I2cTarget.direction
        rw [starts_addressWord, if_pos rfl, direction_addressWord]
      have hwords : target.feedWords reading (wireWords (msg :: rest)) state =
          target.feedWords msg.isRead (byteWords msg.isRead rest.isEmpty msg.buf ++ wireWords rest)
            (target.start (msg.addr.setWidth 7) msg.isRead state) := by
        rw [wireWords, msgWords, List.cons_append, I2cTarget.feedWords, hdirection,
          feed_address haddr]
        rfl
      rw [hwords, feed_byteWords]
      cases rest with
      | nil =>
          have hbuf : msg.buf.isEmpty = false := List.isEmpty_eq_false_iff.mpr hlast
          refine ⟨fillReads_message msg [] state [], ?_⟩
          dsimp only
          rw [hbuf]
          rfl
      | cons next rest =>
          obtain ⟨hbytes, hstate⟩ := ih (fun other hother => hseven other (.tail _ hother))
            (List.cons_ne_nil _ _) hlast msg.isRead (target.message msg state).2
          exact ⟨(fillReads_message msg (next :: rest) state _).trans (congrArg _ hbytes), hstate⟩

end Feed

/-! ## A device behind the controller -/

/-- The controller's receive path, and the device. -/
structure Line (τ : Type) where
  path : RxPath
  device : τ

section Wired

variable {τ : Type} {i2c : I2c} {target : I2cTarget τ} {steps : List I2cStep}

/-- The controller and the device after an operation. A dummy clocks the byte that the device has
then. -/
def Line.after (i2c : I2c) (target : I2cTarget τ) (line : Line τ) (op : BusOp I2cOp) : Line τ where
  path := line.path.after i2c (fun _ => (target.read line.device).1) op
  device :=
    match op with
    | .wr data address =>
        if address = i2c.dev + txFifo then target.feed line.path.reading data line.device
        else line.device
    | .rd _ | .delay _ | .extra _ => line.device

/-- With the answers of the transcript, and with delays of any length, the controller and the
device change from the first to the second. -/
inductive Wired (i2c : I2c) (target : I2cTarget τ) : Line τ → List I2cStep → Line τ → Prop
  | nil (line : Line τ) : Wired i2c target line [] line
  | land {line line' : Line τ} {byte : BitVec 8} {rest : List (BitVec 8)} {steps : List I2cStep}
      (hfly : line.path.inFlight = byte :: rest)
      (hrest : Wired i2c target { line with path := line.path.land byte rest } steps line') :
      Wired i2c target line steps line'
  | step {line line' : Line τ} {step : I2cStep} {steps : List I2cStep}
      (hanswer : line.path.Answers i2c step)
      (hrest : Wired i2c target (line.after i2c target step.1) steps line') :
      Wired i2c target line (step :: steps) line'

variable (target) in
/-- A step that pushes no word leaves the device alone, whatever bytes it would give. -/
theorem Line.after_silent {step : I2cStep} (hnone : i2c.word step = none) (line : Line τ)
    (produced : Nat → BitVec 8) :
    line.after i2c target step.1 = ⟨line.path.after i2c produced step.1, line.device⟩ := by
  obtain ⟨op, answer⟩ := step
  cases op with
  | wr data address =>
      have hother : address ≠ i2c.dev + txFifo := fun heq =>
        Option.some_ne_none data ((if_pos heq).symm.trans hnone)
      unfold Line.after RxPath.after
      dsimp only
      rw [if_neg hother, if_neg hother, if_neg hother]
  | rd | delay | extra => rfl

theorem Wired.receives {line line' : Line τ} (h : Wired i2c target line steps line')
    (hnone : i2c.words steps = []) (produced : Nat → BitVec 8) :
    Receives i2c produced line.path steps line'.path ∧ line'.device = line.device := by
  induction h with
  | nil line => exact ⟨.nil _, rfl⟩
  | land hfly _ ih =>
      obtain ⟨hpath, hdevice⟩ := ih hnone
      exact ⟨.land hfly hpath, hdevice⟩
  | @step line line' step steps hanswer _ ih =>
      rw [words_cons, List.append_eq_nil_iff, Option.toList_eq_nil_iff] at hnone
      have hafter := line.after_silent target hnone.1 produced
      obtain ⟨hpath, hdevice⟩ := ih hnone.2
      rw [hafter] at hpath hdevice
      exact ⟨.step hanswer hpath, hdevice⟩

theorem wired_append {line line' : Line τ} {first second : List I2cStep}
    (h : Wired i2c target line (first ++ second) line') :
    ∃ middle, Wired i2c target line first middle ∧ Wired i2c target middle second line' := by
  generalize hsteps : first ++ second = all at h
  induction h generalizing first with
  | nil line =>
      obtain ⟨rfl, rfl⟩ := List.append_eq_nil_iff.mp hsteps
      exact ⟨line, .nil line, .nil line⟩
  | land hfly _ ih =>
      obtain ⟨middle, hfirst, hsecond⟩ := ih hsteps
      exact ⟨middle, .land hfly hfirst, hsecond⟩
  | @step line line' step steps hanswer hrest ih =>
      cases first with
      | nil =>
          cases hsteps
          exact ⟨line, .nil line, .step hanswer hrest⟩
      | cons _ first =>
          obtain ⟨rfl, htail⟩ := List.cons.inj hsteps
          obtain ⟨middle, hfirst, hsecond⟩ := ih htail
          exact ⟨middle, .step hanswer hfirst, hsecond⟩

/-- Before the first step bytes may arrive. -/
theorem wired_cons {line line' : Line τ} {step : I2cStep}
    (h : Wired i2c target line (step :: steps) line') :
    ∃ path, line.path.Same path ∧
      Wired i2c target (Line.after i2c target ⟨path, line.device⟩ step.1) steps line' := by
  generalize hsteps : step :: steps = all at h
  induction h with
  | nil => cases hsteps
  | land hfly _ ih =>
      obtain ⟨path, hsame, hrest⟩ := ih hsteps
      exact ⟨path, (RxPath.same_land hfly).trans hsame, hrest⟩
  | @step line line' _ _ _ hrest =>
      cases hsteps
      exact ⟨line.path, .refl _, hrest⟩

/-- Quiet steps leave the queue and the device alone. -/
theorem wired_quiet {line line' : Line τ} (h : Wired i2c target line steps line')
    (hquiet : ∀ step ∈ steps, Quiet i2c step.1) :
    line.path.Same line'.path ∧ line'.device = line.device := by
  obtain ⟨hpath, hdevice⟩ := h.receives (words_quiet hquiet) fun _ => 0
  exact ⟨receives_quiet hpath hquiet, hdevice⟩

/-- A send that succeeded pushed its word. -/
theorem wired_send {line line' : Line τ} {data : BitVec 32}
    (hsend : Produces (i2cSend i2c data) steps 0) (h : Wired i2c target line steps line') :
    (line.path.push (fun _ => (target.read line.device).1) data).Same line'.path ∧
      line'.device = target.feed line.path.reading data line.device := by
  obtain ⟨hfail, _⟩ | ⟨before, after, empty, hready, hpoll, rfl, _⟩ := send_produces hsend
  · exact absurd hfail (by decide)
  obtain ⟨line₁, hbefore, hrest⟩ := wired_append h
  obtain ⟨path, hsame, hpushed⟩ := wired_cons hrest
  obtain ⟨hsame₁, hdevice₁⟩ := wired_quiet hbefore ((only_await_tx quiet_upkeep).produces hready)
  have hafter : Line.after i2c target ⟨path, line₁.device⟩ (.wr data (i2c.dev + txFifo)) =
      ⟨path.push (fun _ => (target.read line₁.device).1) data,
        target.feed path.reading data line₁.device⟩ := by
    unfold Line.after RxPath.after
    dsimp only
    rw [if_pos rfl, if_pos rfl]
  rw [hafter] at hpushed
  obtain ⟨hsame₂, hdevice₂⟩ := wired_quiet hpushed fun step hstep => by
    cases hstep with
    | head => trivial
    | tail _ htail => exact (only_poll_tx_empty quiet_status 1000).produces hpoll step htail
  have hqueue := hsame₁.trans hsame
  rw [hdevice₁] at hsame₂ hdevice₂
  refine ⟨(hqueue.push data).trans hsame₂, ?_⟩
  rw [hdevice₂, hqueue.reading]

/-- A receive takes the oldest byte of the queue. -/
theorem wired_recv {line line' : Line τ} {data : BitVec 32}
    (hrecv : Produces (i2cRecv i2c) steps (.ok data)) (h : Wired i2c target line steps line') :
    line.path.unread = data.setWidth 8 :: line'.path.unread ∧
      line'.path.reading = line.path.reading ∧ line'.device = line.device := by
  obtain ⟨hpath, hdevice⟩ := h.receives (recv_words hrecv) fun _ => 0
  obtain ⟨hqueue, _, _, hreading⟩ := receives_recv hrecv hpath
  exact ⟨hqueue, hreading, hdevice⟩

/-! ## Transfers -/

theorem push_direction (produced : Nat → BitVec 8) (path : RxPath) (word : BitVec 32) :
    (path.push produced word).reading = I2cTarget.direction path.reading word := by
  unfold RxPath.push I2cTarget.direction
  split
  next => rfl
  next => split <;> rfl

/-- Served words bring the device's bytes, and leave no byte behind when there was none. -/
theorem wired_serves {line line' : Line τ} {words : List BusWord} {bytes : List (BitVec 8)}
    (hserved : Serves i2c words steps bytes) (h : Wired i2c target line steps line')
    (hwords : Coherent line.path.reading words) (hclean : line.path.unread = []) :
    bytes = (target.feedWords line.path.reading words line.device).1 ∧
      line'.device = (target.feedWords line.path.reading words line.device).2 ∧
      line'.path.unread = [] := by
  induction hserved generalizing line with
  | nil =>
      obtain ⟨hsame, hdevice⟩ := wired_quiet h fun step hstep => absurd hstep List.not_mem_nil
      exact ⟨rfl, hdevice, hsame.unread.trans hclean⟩
  | @push word rest sent steps bytes hsend _ ih =>
      obtain ⟨line₁, hsent, hrest⟩ := wired_append h
      obtain ⟨hsame, hdevice⟩ := wired_send hsend hsent
      obtain ⟨_, _, hunread, hcoherent⟩ :=
        push_word (fun _ => (target.read line.device).1) hwords
      have hreading := hsame.reading.trans (push_direction _ _ _)
      rw [← hsame.reading] at hcoherent
      obtain ⟨rfl, hdevice', hclean'⟩ :=
        ih hrest hcoherent (hsame.unread.trans (hunread.trans hclean))
      rw [hreading, hdevice] at hdevice'
      exact ⟨by rw [hreading, hdevice]; rfl, hdevice', hclean'⟩
  | @clock word data rest sent taken steps bytes hsend hrecv _ ih =>
      obtain ⟨line₁, hsent, hrest⟩ := wired_append h
      obtain ⟨line₂, htaken, hrest₂⟩ := wired_append hrest
      obtain ⟨hsame, hdevice⟩ := wired_send hsend hsent
      obtain ⟨hqueue, hreading₂, hdevice₂⟩ := wired_recv hrecv htaken
      obtain ⟨_, _, hunread, hcoherent⟩ :=
        push_dummy (fun _ => (target.read line.device).1) hwords
      have hreading := hreading₂.trans (hsame.reading.trans (push_direction _ _ _))
      -- the queue held the byte of this dummy only
      rw [hsame.unread, hunread, hclean, List.nil_append] at hqueue
      obtain ⟨hbyte, hempty⟩ := List.cons.inj hqueue
      rw [← hsame.reading, ← hreading₂] at hcoherent
      obtain ⟨rfl, hdevice', hclean'⟩ := ih hrest₂ hcoherent hempty.symm
      rw [hreading, hdevice₂, hdevice] at hdevice'
      refine ⟨?_, hdevice', hclean'⟩
      rw [hreading, hdevice₂, hdevice, ← hbyte]
      rfl

/-- A transfer that returns `num` on a bus without bytes left behind is a transfer of the device:
it stores the bytes that the device gives, and the device has seen the messages and the STOP. No
byte is left behind. -/
theorem xfer_refines {line line' : Line τ} {msgs msgs' : List I2cMsg}
    (hseven : ∀ msg ∈ msgs, msg.addr < 128) (hne : msgs ≠ [])
    (hlast : (msgs.getLast hne).buf ≠ [])
    (hrun : Produces (i2cXfer i2c msgs) steps (msgs.length, msgs'))
    (h : Wired i2c target line steps line') (hclean : line.path.unread = []) :
    msgs' = (target.transfer msgs line.device).1 ∧
      line'.device = (target.transfer msgs line.device).2 ∧ line'.path.unread = [] := by
  obtain ⟨reg, middle, bytes, rfl, hserved, rfl⟩ := xfer_serves hrun
  obtain ⟨first, last, hfirst, hfinal, hsplit⟩ := framed_split i2c reg
  rw [hsplit] at h
  obtain ⟨line₁, hopen, hrest⟩ := wired_append h
  obtain ⟨line₂, hmiddle, hclose⟩ := wired_append hrest
  obtain ⟨hsame₁, hdevice₁⟩ := wired_quiet hopen hfirst
  obtain ⟨hsame₂, hdevice₂⟩ := wired_quiet hclose hfinal
  obtain ⟨rfl, hdevice, hempty⟩ := wired_serves hserved hmiddle (coherent_wireWords _ _)
    (hsame₁.unread.trans hclean)
  obtain ⟨hbytes, hstate⟩ := feed_wireWords target hseven hne hlast line₁.path.reading
    line₁.device
  rw [hdevice₁] at hbytes hstate hdevice
  exact ⟨by rw [hdevice₁, hbytes], hdevice₂.trans (hdevice.trans hstate),
    hsame₂.unread.trans hempty⟩

end Wired

end Saa7231
