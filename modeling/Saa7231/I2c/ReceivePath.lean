import Saa7231.I2c.BusRelease

/-!
# The receive path

Each dummy of a read message clocks one byte out of the slave. The byte arrives in `RX_FIFO`
after an arbitrary delay, and `I2C_STATUS` shows whether a byte has arrived. `Receives` relates
the path before and after a transcript, over all delays. A delay moves a byte from the bytes on
their way to `RX_FIFO` and changes nothing else (`RxPath.Same`): the bytes not yet taken form one
queue, which a dummy lengthens and a receive shortens.
-/

namespace Saa7231

open Interaction Bus Program

variable {i2c : I2c} {produced : Nat → BitVec 8} {steps : List I2cStep}

/-- The receive path of a controller. -/
structure RxPath where
  /-- The direction of the message that the last address word opened. -/
  reading : Bool
  /-- The number of dummies pushed so far. -/
  dummies : Nat
  /-- The number of bytes taken from `RX_FIFO` so far. -/
  taken : Nat
  /-- The bytes that were clocked and have not arrived. -/
  inFlight : List (BitVec 8)
  /-- The bytes in `RX_FIFO`. -/
  fifo : List (BitVec 8)

namespace RxPath

/-- A path that no byte has entered. -/
def empty : RxPath where
  reading := false
  dummies := 0
  taken := 0
  inFlight := []
  fifo := []

/-- The bytes clocked and not yet taken, the oldest first. -/
def unread (path : RxPath) : List (BitVec 8) := path.fifo ++ path.inFlight

/-- A word is pushed into `TX_FIFO`: in a read, a word without START clocks the next byte. -/
def push (path : RxPath) (produced : Nat → BitVec 8) (word : BitVec 32) : RxPath :=
  if starts word then
    { path with reading := word.getLsbD 0 }
  else if path.reading then
    { path with
      dummies := path.dummies + 1
      inFlight := path.inFlight ++ [produced path.dummies] }
  else
    path

/-- The oldest byte arrives. -/
def land (path : RxPath) (byte : BitVec 8) (rest : List (BitVec 8)) : RxPath :=
  { path with inFlight := rest, fifo := path.fifo ++ [byte] }

/-- A status of the path: `RX_FIFO_EMPTY` is clear exactly when a byte has arrived. -/
def Shows (path : RxPath) (reg : BitVec 32) : Prop := reg &&& rxFifoEmpty = 0 ↔ path.fifo ≠ []

/-- A reading of `RX_FIFO`: the oldest byte there, in the low bits. -/
def Gives (path : RxPath) (data : BitVec 32) : Prop :=
  ∀ byte ∈ path.fifo.head?, data.setWidth 8 = byte

/-- The answer is one that the path can give. -/
def Answers (i2c : I2c) (path : RxPath) : I2cStep → Prop
  | ⟨.rd address, value⟩ =>
      (address = i2c.dev + i2cStatus → path.Shows value) ∧
        (address = i2c.dev + rxFifo → path.Gives value)
  | ⟨.wr _ _, _⟩ | ⟨.delay _, _⟩ | ⟨.extra _, _⟩ => True

/-- The path after an operation. -/
def after (i2c : I2c) (produced : Nat → BitVec 8) (path : RxPath) : BusOp I2cOp → RxPath
  | .rd address =>
      if address = i2c.dev + rxFifo then
        { path with taken := path.taken + 1, fifo := path.fifo.tail }
      else
        path
  | .wr data address =>
      if address = i2c.dev + txFifo then path.push produced data else path
  | .delay _ | .extra _ => path

/-- The paths differ in the bytes that have arrived only. -/
structure Same (path path' : RxPath) : Prop where
  reading : path'.reading = path.reading
  dummies : path'.dummies = path.dummies
  taken : path'.taken = path.taken
  unread : path'.unread = path.unread

theorem Same.refl (path : RxPath) : path.Same path := ⟨rfl, rfl, rfl, rfl⟩

theorem Same.trans {path path' path'' : RxPath} (h : path.Same path') (h' : path'.Same path'') :
    path.Same path'' :=
  ⟨h'.reading.trans h.reading, h'.dummies.trans h.dummies, h'.taken.trans h.taken,
    h'.unread.trans h.unread⟩

theorem same_land {path : RxPath} {byte : BitVec 8} {rest : List (BitVec 8)}
    (hfly : path.inFlight = byte :: rest) : path.Same (path.land byte rest) :=
  ⟨rfl, rfl, rfl, by simp [land, RxPath.unread, hfly]⟩

/-- The queue after a push depends on the queue before it only. -/
theorem Same.push {path path' : RxPath} (h : path.Same path') (word : BitVec 32) :
    (path.push produced word).Same (path'.push produced word) := by
  unfold RxPath.push
  rw [h.reading]
  split
  next => exact ⟨rfl, h.dummies, h.taken, h.unread⟩
  next =>
    split
    next =>
      refine ⟨rfl, by simp only [h.dummies], h.taken, ?_⟩
      simp only [RxPath.unread, ← List.append_assoc, h.dummies]
      exact congrArg (· ++ [produced path.dummies]) h.unread
    next => exact h

end RxPath

/-- With the answers of the transcript, and with delays of any length, the path changes from the
first to the second. -/
inductive Receives (i2c : I2c) (produced : Nat → BitVec 8) :
    RxPath → List I2cStep → RxPath → Prop
  | nil (path : RxPath) : Receives i2c produced path [] path
  | land {path path' : RxPath} {byte : BitVec 8} {rest : List (BitVec 8)} {steps : List I2cStep}
      (hfly : path.inFlight = byte :: rest)
      (hrest : Receives i2c produced (path.land byte rest) steps path') :
      Receives i2c produced path steps path'
  | step {path path' : RxPath} {step : I2cStep} {steps : List I2cStep}
      (hanswer : path.Answers i2c step)
      (hrest : Receives i2c produced (path.after i2c produced step.1) steps path') :
      Receives i2c produced path (step :: steps) path'

/-! ## Cutting a transcript -/

theorem receives_nil {path path' : RxPath} (h : Receives i2c produced path [] path') :
    path.Same path' := by
  generalize hsteps : ([] : List I2cStep) = steps at h
  induction h with
  | nil path => exact .refl path
  | land hfly _ ih => exact (RxPath.same_land hfly).trans (ih hsteps)
  | step => cases hsteps

/-- Before the first step bytes may arrive, and none leaves `RX_FIFO`. -/
theorem receives_cons {path path' : RxPath} {step : I2cStep}
    (h : Receives i2c produced path (step :: steps) path') :
    ∃ middle, path.Same middle ∧ (path.fifo ≠ [] → middle.fifo ≠ []) ∧
      middle.Answers i2c step ∧
      Receives i2c produced (middle.after i2c produced step.1) steps path' := by
  generalize hsteps : step :: steps = all at h
  induction h with
  | nil => cases hsteps
  | land hfly _ ih =>
      obtain ⟨middle, hsame, hkept, hanswer, hrest⟩ := ih hsteps
      refine ⟨middle, (RxPath.same_land hfly).trans hsame, fun _ => hkept ?_, hanswer, hrest⟩
      exact List.append_ne_nil_of_right_ne_nil _ (List.cons_ne_nil _ _)
  | @step path path' _ _ hanswer hrest =>
      cases hsteps
      exact ⟨path, .refl path, id, hanswer, hrest⟩

theorem receives_append {path path' : RxPath} {first second : List I2cStep}
    (h : Receives i2c produced path (first ++ second) path') :
    ∃ middle, Receives i2c produced path first middle ∧
      Receives i2c produced middle second path' := by
  generalize hsteps : first ++ second = all at h
  induction h generalizing first with
  | nil path =>
      obtain ⟨rfl, rfl⟩ := List.append_eq_nil_iff.mp hsteps
      exact ⟨path, .nil path, .nil path⟩
  | land hfly _ ih =>
      obtain ⟨middle, hfirst, hsecond⟩ := ih hsteps
      exact ⟨middle, .land hfly hfirst, hsecond⟩
  | @step path path' step steps hanswer hrest ih =>
      cases first with
      | nil =>
          cases hsteps
          exact ⟨path, .nil path, .step hanswer hrest⟩
      | cons _ first =>
          obtain ⟨rfl, htail⟩ := List.cons.inj hsteps
          obtain ⟨middle, hfirst, hsecond⟩ := ih htail
          exact ⟨middle, .step hanswer hfirst, hsecond⟩

/-- Quiet steps leave the queue alone. -/
theorem receives_quiet {path path' : RxPath} (h : Receives i2c produced path steps path')
    (hquiet : ∀ step ∈ steps, Quiet i2c step.1) : path.Same path' := by
  induction h with
  | nil path => exact .refl path
  | land hfly _ ih => exact (RxPath.same_land hfly).trans (ih hquiet)
  | @step path path' step steps _ _ ih =>
      have hafter : path.after i2c produced step.1 = path := by
        have hstep := hquiet step List.mem_cons_self
        obtain ⟨op, answer⟩ := step
        cases op with
        | rd | wr => exact if_neg hstep
        | delay | extra => rfl
      exact hafter ▸ ih fun other hother => hquiet other (List.mem_cons_of_mem _ hother)

/-! ## Sending and receiving -/

/-- A word that was pushed has entered the path. -/
theorem receives_push {path path' : RxPath} {data : BitVec 32} {before after : List I2cStep}
    (h : Receives i2c produced path (before ++ ⟨.wr data (i2c.dev + txFifo), ()⟩ ::
      ⟨.extra (.udelay 200), ()⟩ :: after) path')
    (hbefore : ∀ step ∈ before, Quiet i2c step.1) (hafter : ∀ step ∈ after, Quiet i2c step.1) :
    (path.push produced data).Same path' := by
  obtain ⟨path₁, hfirst, hrest⟩ := receives_append h
  obtain ⟨path₂, hsame, _, _, hrest₂⟩ := receives_cons hrest
  have hpushed : path₂.after i2c produced (.wr data (i2c.dev + txFifo)) =
      path₂.push produced data := if_pos rfl
  rw [hpushed] at hrest₂
  have hqueue : (path.push produced data).Same (path₂.push produced data) :=
    ((receives_quiet hfirst hbefore).trans hsame).push data
  refine hqueue.trans (receives_quiet hrest₂ fun step hstep => ?_)
  cases hstep with
  | head => trivial
  | tail _ htail => exact hafter step htail

theorem receives_send {path path' : RxPath} {data : BitVec 32}
    (hsend : Produces (i2cSend i2c data) steps 0) (h : Receives i2c produced path steps path') :
    (path.push produced data).Same path' := by
  obtain ⟨hfail, _⟩ | ⟨before, after, empty, hready, hpoll, rfl, _⟩ := send_produces hsend
  · exact absurd hfail (by decide)
  · exact receives_push h ((only_await_tx quiet_upkeep).produces hready) ((only_poll_tx_empty quiet_status 1000).produces hpoll)

/-- A send that failed may have pushed its word. -/
theorem receives_send_failed {path path' : RxPath} {data : BitVec 32}
    (hsend : Produces (i2cSend i2c data) steps (-eio))
    (h : Receives i2c produced path steps path') :
    path.Same path' ∨ (path.push produced data).Same path' := by
  obtain ⟨_, hready⟩ | ⟨before, after, empty, hready, hpoll, rfl, _⟩ := send_produces hsend
  · exact Or.inl (receives_quiet h ((only_await_tx quiet_upkeep).produces hready))
  · exact Or.inr (receives_push h ((only_await_tx quiet_upkeep).produces hready)
      ((only_poll_tx_empty quiet_status 1000).produces hpoll))

/-- The last reading of a poll that saw a byte. -/
theorem pollRx_found {n : Nat} (h : Produces (pollRx i2c n) steps true) :
    ∃ init reg, steps = init ++ [⟨.rd (i2c.dev + i2cStatus), reg⟩] ∧
      reg &&& i2cRxbusy = 0 ∧ ∀ step ∈ init, Quiet i2c step.1 := by
  induction n generalizing steps with
  | zero => exact absurd (produces_pure.mp h).2 (by decide)
  | succ n ih =>
      obtain ⟨reg, rest, rfl, hrest⟩ := produces_rd_bind.mp h
      split at hrest
      next hseen =>
        obtain ⟨rfl, _⟩ := produces_pure.mp hrest
        exact ⟨[], reg, rfl, hseen, fun step hstep => absurd hstep List.not_mem_nil⟩
      next =>
        obtain ⟨init, reg', rfl, hseen, hquiet⟩ := ih hrest
        refine ⟨⟨.rd (i2c.dev + i2cStatus), reg⟩ :: init, reg', rfl, hseen, ?_⟩
        intro step hstep
        cases hstep with
        | head => exact quiet_status
        | tail _ htail => exact hquiet step htail

theorem rx_arrived {reg : BitVec 32} (h : reg &&& i2cRxbusy = 0) : reg &&& rxFifoEmpty = 0 := by
  have hmask : rxFifoEmpty = i2cRxbusy &&& rxFifoEmpty := by decide
  rw [hmask, ← BitVec.and_assoc, h]
  exact BitVec.zero_and

/-- A receive takes the oldest byte of the queue. -/
theorem receives_recv {path path' : RxPath} {data : BitVec 32}
    (hrecv : Produces (i2cRecv i2c) steps (.ok data))
    (h : Receives i2c produced path steps path') :
    path.unread = data.setWidth 8 :: path'.unread ∧ path'.taken = path.taken + 1 ∧
      path'.dummies = path.dummies ∧ path'.reading = path.reading := by
  obtain ⟨herror, _⟩ | ⟨polls, found, hpoll, rfl, hdata⟩ := recv_produces hrecv
  · cases herror
  · cases hdata
    obtain ⟨init, reg, rfl, hseen, hquiet⟩ := pollRx_found hpoll
    rw [List.append_assoc] at h
    obtain ⟨path₁, hinit, hrest⟩ := receives_append h
    obtain ⟨path₂, hsame₂, _, hstatus, hrest₂⟩ := receives_cons hrest
    have hkeep : path₂.after i2c produced (.rd (i2c.dev + i2cStatus)) = path₂ :=
      if_neg quiet_status
    rw [hkeep] at hrest₂
    obtain ⟨path₃, hsame₃, harrived, hgiven, hrest₃⟩ := receives_cons hrest₂
    have htake : path₃.after i2c produced (.rd (i2c.dev + rxFifo)) =
        { path₃ with taken := path₃.taken + 1, fifo := path₃.fifo.tail } := if_pos rfl
    rw [htake] at hrest₃
    have hsame := ((receives_quiet hinit hquiet).trans hsame₂).trans hsame₃
    have hend := receives_nil hrest₃
    -- the status was read with a byte in `RX_FIFO`, and bytes leave it by receives only
    have hbyte : path₃.fifo ≠ [] := harrived ((hstatus.1 rfl).mp (rx_arrived hseen))
    obtain ⟨byte, rest, hfifo⟩ := List.exists_cons_of_ne_nil hbyte
    have hvalue : data.setWidth 8 = byte := hgiven.2 rfl byte (by rw [hfifo]; rfl)
    refine ⟨?_, ?_, ?_, ?_⟩
    · rw [← hsame.unread, hend.unread, RxPath.unread, RxPath.unread, hfifo, hvalue]
      rfl
    · rw [hend.taken, ← hsame.taken]
    · rw [hend.dummies, ← hsame.dummies]
    · rw [hend.reading, ← hsame.reading]

/-- A receive that timed out takes nothing. -/
theorem receives_recv_failed {path path' : RxPath}
    (hrecv : Produces (i2cRecv i2c) steps (.error (-eio)))
    (h : Receives i2c produced path steps path') : path.Same path' := by
  obtain ⟨_, hpoll⟩ | ⟨polls, found, hpoll, rfl, hdata⟩ := recv_produces hrecv
  · exact receives_quiet h ((only_poll_rx quiet_status 100).produces hpoll)
  · cases hdata

end Saa7231
