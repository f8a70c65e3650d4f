import Saa7231.I2c.Target

/-!
# A controller without delays

On a controller whose transmit path is always ready, and where a byte arrives in `RX_FIFO` as soon
as it is clocked, every transfer returns `num` (`xfer_prompt`). With `xfer_refines` such a transfer
is what the messages mean to the device, without a condition on its result.
-/

namespace Saa7231

open Interaction Bus Program

variable {τ : Type} {i2c : I2c} {target : I2cTarget τ} {line : Line τ}

/-- Every byte on its way arrives. -/
def Line.settle (line : Line τ) : Line τ where
  path := { line.path with inFlight := [], fifo := line.path.fifo ++ line.path.inFlight }
  device := line.device

/-- That controller, with a device behind it. -/
def promptWorld (i2c : I2c) (target : I2cTarget τ) :
    World (BusOp I2cOp) (BusAns I2cAns) (Line τ) where
  answer op line := match op with
    | .rd address => line.path.readout i2c address
    | .wr _ _ | .delay _ | .extra _ => ()
  after op line := (line.after i2c target op).settle

/-! ## Its runs -/

/-- Bytes that have landed before a transcript may as well land within it. -/
theorem Wired.settle {line line' : Line τ} {steps : List I2cStep}
    (h : Wired i2c target line.settle steps line') : Wired i2c target line steps line' := by
  obtain ⟨⟨reading, dummies, taken, inFlight, fifo⟩, device⟩ := line
  induction inFlight generalizing fifo with
  | nil =>
      have hfifo : fifo ++ [] = fifo := List.append_nil fifo
      rw [Line.settle, hfifo] at h
      exact h
  | cons byte rest ih =>
      have hsame : Line.settle ⟨⟨reading, dummies, taken, rest, fifo ++ [byte]⟩, device⟩ =
          Line.settle ⟨⟨reading, dummies, taken, byte :: rest, fifo⟩, device⟩ := by
        simp only [Line.settle, List.append_assoc, List.cons_append, List.nil_append]
      exact .land rfl (ih (fifo ++ [byte]) (hsame ▸ h))

/-- The controller answers as its path allows. -/
theorem prompt_answers (op : BusOp I2cOp) (line : Line τ) :
    line.path.Answers i2c ⟨op, (promptWorld i2c target).answer op line⟩ := by
  cases op with
  | wr | delay | extra => trivial
  | rd address =>
      constructor
      · rintro rfl
        exact readout_shows _
      · rintro rfl
        exact readout_gives _

variable (i2c target) in
/-- Every run on the controller is one that a device behind a controller allows. -/
theorem prompt_wired {α : Type} (program : I2cProgram α) (line : Line τ) :
    Wired i2c target line (program.transcript (promptWorld i2c target) line)
      (program.run (promptWorld i2c target) line).2 := by
  induction program generalizing line with
  | ret value => exact .nil line
  | call op next ih => exact .step (prompt_answers op line) (.settle (ih _ _))

/-! ## Words and bytes -/

/-- Nothing is on its way. -/
def Line.Settled (line : Line τ) : Prop := line.path.inFlight = []

/-- After settling nothing is left in flight. -/
theorem settled_settle (line : Line τ) : line.settle.Settled := rfl

/-- A settled line has nothing to settle. -/
theorem Line.Settled.settle (h : line.Settled) : line.settle = line := by
  obtain ⟨⟨reading, dummies, taken, inFlight, fifo⟩, device⟩ := line
  obtain rfl : inFlight = [] := h
  rw [Line.settle, List.append_nil]

variable (i2c) in
/-- The status of the transmit path. -/
theorem prompt_status (path : RxPath) :
    path.readout i2c (i2c.dev + i2cStatus) &&& i2cTxbusy = 0 ∧
      path.readout i2c (i2c.dev + i2cStatus) &&& txFifoEmpty ≠ 0 ∧
      (path.fifo ≠ [] → path.readout i2c (i2c.dev + i2cStatus) &&& i2cRxbusy = 0) := by
  rw [RxPath.readout, if_pos rfl]
  cases path.fifo with
  | nil => exact ⟨by decide, by decide, fun h => absurd rfl h⟩
  | cons =>
      rw [List.isEmpty_cons, if_neg Bool.false_ne_true]
      exact ⟨by decide, by decide, fun _ => by decide⟩

/-- An operation that reaches neither FIFO changes nothing. -/
theorem prompt_quiet {op : BusOp I2cOp} (h : line.Settled) (hquiet : Quiet i2c op) :
    (promptWorld i2c target).after op line = line := by
  have hkeeps : line.after i2c target op = line := by
    cases op with
    | rd address =>
        unfold Line.after RxPath.after
        dsimp only
        rw [if_neg hquiet]
    | wr data address =>
        unfold Line.after RxPath.after
        dsimp only
        rw [if_neg hquiet, if_neg hquiet]
    | delay | extra => rfl
  show (line.after i2c target op).settle = line
  rw [hkeeps, h.settle]

/-- A quiet operation leaves a settled line as it is. -/
theorem run_quiet {α : Type} {op : BusOp I2cOp} {f : BusAns I2cAns op → I2cProgram α}
    (h : line.Settled) (hquiet : Quiet i2c op) :
    (Program.perform op >>= f).run (promptWorld i2c target) line =
      (f ((promptWorld i2c target).answer op line)).run (promptWorld i2c target) line := by
  show (f _).run _ ((promptWorld i2c target).after op line) = _
  rw [prompt_quiet h hquiet]

/-- The line after a word. -/
def Line.push (target : I2cTarget τ) (line : Line τ) (data : BitVec 32) : Line τ :=
  Line.settle ⟨line.path.push (fun _ => (target.read line.device).1) data,
    target.feed line.path.reading data line.device⟩

/-- The transmit path is free at once. -/
theorem await_prompt (h : line.Settled) :
    (awaitTx i2c).run (promptWorld i2c target) line = (0, line) := by
  have hready := (prompt_status i2c line.path).1
  refine (run_quiet h quiet_status).trans ?_
  exact congrArg (fun program => Program.run _ program line) (if_pos hready)

/-- `TX_FIFO` is empty at the first poll. -/
theorem poll_empty_prompt (h : line.Settled) (polls : Nat) :
    (pollTxEmpty i2c (polls + 1)).run (promptWorld i2c target) line = (true, line) := by
  have hempty := (prompt_status i2c line.path).2.1
  refine (run_quiet h quiet_status).trans ?_
  exact congrArg (fun program => Program.run _ program line) (if_neg hempty)

/-- A byte that is there is seen at the first poll. -/
theorem poll_rx_prompt (h : line.Settled) (hbyte : line.path.fifo ≠ []) (polls : Nat) :
    (pollRx i2c (polls + 1)).run (promptWorld i2c target) line = (true, line) := by
  have harrived := (prompt_status i2c line.path).2.2 hbyte
  refine (run_quiet h quiet_status).trans ?_
  exact congrArg (fun program => Program.run _ program line) (if_pos harrived)

/-- A send pushes its word. -/
theorem send_prompt (h : line.Settled) (data : BitVec 32) :
    (i2cSend i2c data).run (promptWorld i2c target) line = (0, line.push target data) := by
  have hpushed : (promptWorld i2c target).after (.wr data (i2c.dev + txFifo)) line =
      line.push target data := by
    show (line.after i2c target _).settle = _
    unfold Line.after RxPath.after
    dsimp only
    rw [if_pos rfl, if_pos rfl]
    rfl
  have hsettled : (line.push target data).Settled := settled_settle _
  have hpaused : (promptWorld i2c target).after (.extra (.udelay 200)) (line.push target data) =
      line.push target data := prompt_quiet hsettled trivial
  unfold i2cSend
  rw [run_bind, await_prompt h]
  show Program.run _ (pollTxEmpty i2c 1000 >>= _) ((promptWorld i2c target).after
    (.extra (.udelay 200)) ((promptWorld i2c target).after (.wr data (i2c.dev + txFifo)) line)) = _
  rw [hpushed, hpaused, run_bind, poll_empty_prompt hsettled 999]
  rfl

variable (i2c target) in
/-- A byte that has arrived is received. -/
theorem recv_prompt (h : line.Settled) (hbyte : line.path.fifo ≠ []) :
    ∃ data line', (i2cRecv i2c).run (promptWorld i2c target) line = (.ok data, line') ∧
      line'.Settled ∧ line'.path.reading = line.path.reading := by
  have htake : ((promptWorld i2c target).after (.rd (i2c.dev + rxFifo)) line).path.reading =
      line.path.reading := by
    show (line.path.after i2c _ (.rd (i2c.dev + rxFifo))).reading = _
    unfold RxPath.after
    dsimp only
    rw [if_pos rfl]
  unfold i2cRecv
  rw [run_bind, poll_rx_prompt h hbyte 99]
  exact ⟨_, _, rfl, settled_settle _, htake⟩

/-! ## Transfers -/

/-- A word of data keeps the direction. -/
theorem push_reading (read last : Bool) (byte : BitVec 8) (h : line.path.reading = read) :
    (line.push target (dataWord read last byte)).path.reading = read := by
  show (line.path.push _ _).reading = read
  rw [push_direction, h, direction_data]

variable (target) in
/-- The byte of a dummy has arrived. -/
theorem push_arrived (last : Bool) (byte : BitVec 8) (h : line.path.reading = true) :
    (line.push target (dataWord true last byte)).path.fifo ≠ [] := by
  show (line.path.push _ _).fifo ++ (line.path.push _ _).inFlight ≠ []
  unfold RxPath.push
  rw [starts_dataWord, if_neg Bool.false_ne_true, if_pos h]
  simp

variable (i2c target) in
/-- A byte goes through. -/
theorem byte_prompt {read : Bool} (h : line.Settled) (hread : line.path.reading = read)
    (last : Bool) (byte : BitVec 8) :
    ∃ byte' line', (xferByte i2c read last byte).run (promptWorld i2c target) line =
      ((0, byte'), line') ∧ line'.Settled ∧ line'.path.reading = read := by
  unfold xferByte
  rw [run_bind, send_prompt h]
  cases read with
  | false => exact ⟨byte, _, rfl, settled_settle _, push_reading false last byte hread⟩
  | true =>
      have hpushed : (line.push target (dataWord true last byte)).Settled := settled_settle _
      obtain ⟨data, line', hrecv, hsettled, hreading⟩ :=
        recv_prompt i2c target hpushed (push_arrived target last byte hread)
      refine ⟨data.setWidth 8, line', ?_, hsettled,
        hreading.trans (push_reading true last byte hread)⟩
      show Program.run _ (i2cRecv i2c >>= _) (line.push target (dataWord true last byte)) = _
      rw [run_bind, hrecv]
      rfl

variable (i2c target) in
/-- So do the bytes of a message. -/
theorem bytes_prompt {read : Bool} (final : Bool) (buf : List (BitVec 8)) (h : line.Settled)
    (hread : line.path.reading = read) :
    ∃ buf' line', (xferBytes i2c read final buf).run (promptWorld i2c target) line =
      ((0, buf'), line') ∧ line'.Settled := by
  induction buf generalizing line with
  | nil => exact ⟨[], line, rfl, h⟩
  | cons byte rest ih =>
      obtain ⟨byte', line₁, hbyte, hsettled, hreading⟩ :=
        byte_prompt i2c target h hread (final && rest.isEmpty) byte
      obtain ⟨rest', line₂, hrest, hlast⟩ := ih hsettled hreading
      refine ⟨byte' :: rest', line₂, ?_, hlast⟩
      rw [xferBytes, run_bind, hbyte]
      show Program.run _ (xferBytes i2c read final rest >>= _) line₁ = _
      rw [run_bind, hrest]
      rfl

variable (i2c target) in
/-- The messages of a list are served, whatever the addresses. -/
theorem messages_prompt (msgs : List I2cMsg) (h : line.Settled) :
    ∃ msgs' line', (xferMsgs i2c msgs).run (promptWorld i2c target) line =
      ((0, msgs'), line') ∧ line'.Settled := by
  induction msgs generalizing line with
  | nil => exact ⟨[], line, rfl, h⟩
  | cons msg rest ih =>
      have hopened : (line.push target (addressWord msg)).path.reading = msg.isRead := by
        show (line.path.push _ _).reading = _
        rw [push_direction, I2cTarget.direction, starts_addressWord, if_pos rfl,
          direction_addressWord]
      have hpushed : (line.push target (addressWord msg)).Settled := settled_settle _
      obtain ⟨buf, line₁, hbytes, hsettled⟩ :=
        bytes_prompt i2c target rest.isEmpty msg.buf hpushed hopened
      obtain ⟨rest', line₂, hrest, hlast⟩ := ih hsettled
      refine ⟨{ msg with buf } :: rest', line₂, ?_, hlast⟩
      have hmsg : (xferMsg i2c rest.isEmpty msg).run (promptWorld i2c target) line =
          ((0, { msg with buf }), line₁) := by
        unfold xferMsg
        rw [run_bind, send_prompt h]
        show Program.run _ (xferBytes i2c msg.isRead rest.isEmpty msg.buf >>= _)
          (line.push target (addressWord msg)) = _
        rw [run_bind, hbytes]
        rfl
      rw [xferMsgs, run_bind, hmsg]
      show Program.run _ (xferMsgs i2c rest >>= _) line₁ = _
      rw [run_bind, hrest]
      rfl

variable (i2c target) in
/-- A transfer on the controller returns `num`. -/
theorem xfer_prompt (msgs : List I2cMsg) (h : line.Settled) :
    ((i2cXfer i2c msgs).run (promptWorld i2c target) line).1.1 = msgs.length ∧
      ((i2cXfer i2c msgs).run (promptWorld i2c target) line).2.Settled := by
  have hread : Quiet i2c (.rd (i2c.dev + i2cControl) : BusOp I2cOp) := by
    simp [Quiet, i2cControl, rxFifo]
  have hwrite (data : BitVec 32) : Quiet i2c (.wr data (i2c.dev + i2cControl) : BusOp I2cOp) := by
    simp [Quiet, i2cControl, txFifo]
  obtain ⟨msgs', line', hmsgs, hsettled⟩ := messages_prompt i2c target msgs h
  have hrun : (i2cXfer i2c msgs).run (promptWorld i2c target) line =
      (((msgs.length : Int), msgs'), line') := by
    have hlock (op : I2cOp) : Quiet i2c (.extra op) := trivial
    refine (run_quiet h (hlock .mutexLock)).trans ((run_quiet h hread).trans
      ((run_quiet h (hwrite _)).trans ?_))
    rw [run_bind, hmsgs]
    exact run_quiet hsettled (hlock .mutexUnlock)
  rw [hrun]
  exact ⟨rfl, hsettled⟩

/-- A device that gives its bytes in turn, and counts the STOPs. -/
def countingDevice : I2cTarget (Nat × Nat) where
  start _ _ state := state
  write _ state := state
  read state := (BitVec.ofNat 8 state.1, (state.1 + 1, state.2))
  stop state := (state.1, state.2 + 1)

/-- A line on which nothing has happened. -/
def Line.fresh (device : τ) : Line τ := ⟨.empty, device⟩

/-- A fresh line is settled. -/
theorem fresh_settled (device : τ) : (Line.fresh device).Settled := rfl

/-- A register read from that device brings its first two bytes. -/
theorem register_read_refines :
    ((i2cXfer I2c.plain registerRead).run (promptWorld I2c.plain countingDevice)
        (.fresh (7, 0))).1.2 = [⟨0x50, 0, [0x12]⟩, ⟨0x50, i2cMRd, [7, 8]⟩] ∧
      ((i2cXfer I2c.plain registerRead).run (promptWorld I2c.plain countingDevice)
        (.fresh (7, 0))).2.device = (9, 1) := by
  have hresult : ((i2cXfer I2c.plain registerRead).run (promptWorld I2c.plain countingDevice)
      (.fresh (7, 0))).1.1 = 2 := (xfer_prompt _ _ registerRead (fresh_settled _)).1
  have hrun := produces_run_pair (promptWorld I2c.plain countingDevice)
    (i2cXfer I2c.plain registerRead) (.fresh (7, 0))
  rw [hresult] at hrun
  obtain ⟨hmsgs, hdevice, -⟩ := xfer_refines (by decide) (by decide) (by decide) hrun
    (prompt_wired _ _ (i2cXfer I2c.plain registerRead) (.fresh (7, 0))) rfl
  exact ⟨hmsgs, hdevice⟩

end Saa7231
