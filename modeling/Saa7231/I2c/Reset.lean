import Saa7231.I2c.BusRelease

/-!
# Re-initialisation in the middle of a transfer

`i2cSend` re-initialises the controller when the transmit path is still blocked 10 ms after the
first check, and then pushes its word as if nothing had happened. Both facts are local to a
transcript: what follows a wait of 10 ms, and what stands around a reset (`Recovers`). They are
kept when transcripts are joined, so they hold of a whole transfer.
-/

namespace Saa7231

open Interaction Bus Program

variable {i2c : I2c} {steps : List I2cStep}

/-- The write with which `saa7231_i2c_hwinit` resets the controller. -/
def I2c.resetStep (i2c : I2c) : I2cStep := ⟨.wr 0x00cc (i2c.dev + i2cControl), ()⟩

/-- The push of a word. -/
def I2c.pushStep (i2c : I2c) (data : BitVec 32) : I2cStep := ⟨.wr data (i2c.dev + txFifo), ()⟩

/-- A reading of the status. -/
def I2c.statusStep (i2c : I2c) (reg : BitVec 32) : I2cStep := ⟨.rd (i2c.dev + i2cStatus), reg⟩

/-- The wait between two checks of the transmit path. -/
def recheckStep : I2cStep := ⟨.delay 10, ()⟩

/-- A word is not a wait. -/
theorem push_ne_recheck (data : BitVec 32) : i2c.pushStep data ≠ recheckStep := by
  intro h
  cases h

/-- It is not a reading. -/
theorem push_ne_status (data reg : BitVec 32) : i2c.pushStep data ≠ i2c.statusStep reg := by
  intro h
  cases h

/-- Nor is it a reset, which goes to another register. -/
theorem push_ne_reset (data : BitVec 32) : i2c.pushStep data ≠ i2c.resetStep := by
  intro h
  have haddress := (BusOp.wr.inj (congrArg Sigma.fst h)).2
  exact absurd (Nat.add_left_cancel haddress) (by decide)

/-- The controller is reset after the first word and before the last word of the transcript. -/
def ResetWithin (i2c : I2c) (steps : List I2cStep) : Prop :=
  ∃ before first between between' last after,
    steps = before ++ i2c.pushStep first :: (between ++
      i2c.resetStep :: (between' ++ i2c.pushStep last :: after))

/-- After the first word and before the last word of the transcript, the transmit path is read
blocked or full again 10 ms after a check. -/
def BlockedWithin (i2c : I2c) (steps : List I2cStep) : Prop :=
  ∃ before first between reg between' last after, reg &&& i2cTxbusy ≠ 0 ∧
    steps = before ++ i2c.pushStep first :: (between ++
      recheckStep :: i2c.statusStep reg :: (between' ++ i2c.pushStep last :: after))

/-! ## What surrounds a reset -/

/-- Every recheck that finds the path blocked is followed by a reset. -/
def RechecksReset (i2c : I2c) (steps : List I2cStep) : Prop :=
  ∀ before after, steps = before ++ recheckStep :: after →
    ∃ reg rest, after = i2c.statusStep reg :: rest ∧
      (reg &&& i2cTxbusy ≠ 0 → ∃ reg' rest', rest = i2c.statusStep reg' :: i2c.resetStep :: rest')

/-- Every reset follows a recheck that finds the path blocked, and belongs to a run of
`saa7231_i2c_hwinit` that returns 0. -/
def ResetsComplete (i2c : I2c) (steps : List I2cStep) : Prop :=
  ∀ before after, steps = before ++ i2c.resetStep :: after →
    ∃ init reg reg' hwinit rest,
      before = init ++ [recheckStep, i2c.statusStep reg, i2c.statusStep reg'] ∧
      reg &&& i2cTxbusy ≠ 0 ∧ i2c.resetStep :: after = hwinit ++ rest ∧
      Produces (i2cHwinit i2c) (i2c.statusStep reg' :: hwinit) 0

/-- What holds around the waits and resets of a transcript. -/
structure Recovers (i2c : I2c) (steps : List I2cStep) : Prop where
  rechecks : RechecksReset i2c steps
  resets : ResetsComplete i2c steps

/-- The two places where a step of a joined list can be. -/
theorem append_eq_append_cons {α : Type} {first second before after : List α} {x : α}
    (h : first ++ second = before ++ x :: after) :
    (∃ after₁, first = before ++ x :: after₁ ∧ after = after₁ ++ second) ∨
      ∃ before₂, second = before₂ ++ x :: after ∧ before = first ++ before₂ := by
  obtain ⟨middle, hbefore, hsecond⟩ | ⟨middle, hfirst, hcons⟩ := List.append_eq_append_iff.mp h
  · exact Or.inr ⟨middle, hsecond, hbefore⟩
  · cases middle with
    | nil => exact Or.inr ⟨[], hcons.symm, by rw [hfirst]; simp⟩
    | cons y rest =>
        obtain ⟨rfl, rfl⟩ := List.cons.inj hcons
        exact Or.inl ⟨rest, hfirst, rfl⟩

/-- What holds around the waits and resets of two transcripts holds in the joined one. -/
theorem Recovers.append {first second : List I2cStep} (hfirst : Recovers i2c first)
    (hsecond : Recovers i2c second) : Recovers i2c (first ++ second) where
  rechecks before after heq := by
    obtain ⟨after₁, hin, rfl⟩ | ⟨before₂, hin, rfl⟩ := append_eq_append_cons heq
    · obtain ⟨reg, rest, rfl, hreset⟩ := hfirst.rechecks before after₁ hin
      refine ⟨reg, rest ++ second, rfl, fun hbusy => ?_⟩
      obtain ⟨reg', rest', rfl⟩ := hreset hbusy
      exact ⟨reg', rest' ++ second, rfl⟩
    · exact hsecond.rechecks before₂ after hin
  resets before after heq := by
    obtain ⟨after₁, hin, rfl⟩ | ⟨before₂, hin, rfl⟩ := append_eq_append_cons heq
    · obtain ⟨init, reg, reg', hwinit, rest, hbefore, hbusy, hrest, hdone⟩ :=
        hfirst.resets before after₁ hin
      refine ⟨init, reg, reg', hwinit, rest ++ second, hbefore, hbusy, ?_, hdone⟩
      rw [← List.append_assoc, ← hrest]
      rfl
    · obtain ⟨init, reg, reg', hwinit, rest, rfl, hbusy, hrest, hdone⟩ :=
        hsecond.resets before₂ after hin
      exact ⟨first ++ init, reg, reg', hwinit, rest, by rw [List.append_assoc], hbusy, hrest,
        hdone⟩

/-! ## Steps without waits and resets -/

/-- The operation is neither a wait of 10 ms nor a reset. -/
def Calm (i2c : I2c) {Ext : Type} : BusOp Ext → Prop
  | .rd _ | .extra _ => True
  | .wr data address => data ≠ 0x00cc ∨ address ≠ i2c.dev + i2cControl
  | .delay milliseconds => milliseconds ≠ 10

/-- Without waits and resets there is nothing to show. -/
theorem Recovers.of_calm (h : ∀ step ∈ steps, Calm i2c step.1) : Recovers i2c steps where
  rechecks before after heq := by
    subst heq
    exact absurd rfl (h recheckStep (List.mem_append_right _ List.mem_cons_self))
  resets before after heq := by
    subst heq
    obtain hdata | haddress :=
      h i2c.resetStep (List.mem_append_right _ List.mem_cons_self)
    · exact absurd rfl hdata
    · exact absurd rfl haddress

/-- A reading of the status. -/
theorem calm_status : Calm i2c (.rd (i2c.dev + i2cStatus) : BusOp I2cOp) := trivial

/-- The timing is no reset. -/
theorem calm_timing : ∀ reg ∈ [i2cClockDivisorHigh, i2cClockDivisorLow, i2cSdaHold],
    ∀ data, Calm i2c (.wr data (i2c.dev + reg) : BusOp I2cOp) := by
  intro reg hreg data
  have hne : reg ≠ i2cControl := by
    intro heq
    subst heq
    exact absurd hreg (by decide)
  exact Or.inr fun haddress => hne (Nat.add_left_cancel haddress)

/-- The push of a word. -/
theorem calm_push (data : BitVec 32) : Calm i2c (i2c.pushStep data).1 :=
  Or.inr (by simp [i2cControl, txFifo])

/-! ## The recovery of the transmit path -/

/-- A re-initialisation that returns 0 resets the controller once, right after its first
reading. -/
theorem hwinit_produces (h : Produces (i2cHwinit i2c) steps 0) :
    ∃ reg tail, steps = i2c.statusStep reg :: i2c.resetStep :: tail ∧
      ∀ step ∈ tail, Calm i2c step.1 := by
  obtain ⟨reg, rest, rfl, hreset⟩ := produces_rd_bind.mp h
  split at hreset
  next => exact absurd (produces_pure.mp hreset).2 (by decide)
  next =>
    obtain ⟨tail, rfl, hclear⟩ := produces_wr_bind.mp hreset
    obtain ⟨_, rfl, hclear'⟩ := produces_wr_bind.mp hclear
    obtain ⟨_, rfl, hstart⟩ := produces_wr_bind.mp hclear'
    obtain ⟨_, rfl, hpoll⟩ := produces_wr_bind.mp hstart
    obtain ⟨polls, err, rest, rfl, hpolls, hdone⟩ := produces_bind.mp hpoll
    split at hdone
    next =>
      obtain ⟨_, _, _, _, _, hfail⟩ := produces_bind.mp hdone
      exact absurd (produces_pure.mp hfail).2 (by decide)
    next =>
      refine ⟨reg, _, rfl, ?_⟩
      have hrest : ∀ step ∈ rest, Calm i2c step.1 := by
        refine Only.produces (Only.bind (only_set_timing calm_timing) fun _ => ?_) hdone
        simp [wr_bind_only, rd_bind_only, Calm, i2cIntClrEnable, i2cIntClrStatus, i2cControl]
      have hpoll : (pollReset i2c 100 : I2cProgram Int).Only (Calm i2c) :=
        only_poll_reset trivial (by simp [Calm]) 100
      have hpolled := hpoll.produces hpolls
      simp only [List.mem_cons, List.mem_append]
      rintro step (rfl | rfl | rfl | hstep | hstep)
      · exact Or.inl (by decide)
      · exact Or.inl (by decide)
      · exact Or.inl (by decide)
      · exact hpolled step hstep
      · exact hrest step hstep

/-- A recheck that finds the path free. -/
theorem Recovers.of_free {reg : BitVec 32} (hfree : reg &&& i2cTxbusy = 0) :
    Recovers i2c [recheckStep, i2c.statusStep reg] where
  rechecks before after heq := by
    cases before with
    | nil =>
        obtain ⟨_, rfl⟩ := List.cons.inj heq
        exact ⟨reg, [], rfl, fun hbusy => absurd hfree hbusy⟩
    | cons _ before =>
        have hmem : recheckStep ∈ [i2c.statusStep reg] :=
          (List.cons.inj heq).2 ▸ List.mem_append_right _ List.mem_cons_self
        cases List.mem_singleton.mp hmem
  resets before after heq := by
    have hmem : i2c.resetStep ∈ [recheckStep, i2c.statusStep reg] :=
      heq ▸ List.mem_append_right _ List.mem_cons_self
    simp only [List.mem_cons, List.not_mem_nil, or_false] at hmem
    obtain h | h := hmem <;> cases h

/-- A recheck that finds the path blocked, and the re-initialisation after it. -/
theorem Recovers.of_blocked {reg : BitVec 32} (hbusy : reg &&& i2cTxbusy ≠ 0)
    (hwinit : Produces (i2cHwinit i2c) steps 0) :
    Recovers i2c (recheckStep :: i2c.statusStep reg :: steps) := by
  obtain ⟨reg', tail, rfl, hcalm⟩ := hwinit_produces hwinit
  constructor
  · intro before after heq
    cases before with
    | nil =>
        obtain ⟨_, rfl⟩ := List.cons.inj heq
        exact ⟨reg, _, rfl, fun _ => ⟨reg', tail, rfl⟩⟩
    | cons _ before =>
        have hmem : recheckStep ∈
            i2c.statusStep reg :: i2c.statusStep reg' :: i2c.resetStep :: tail :=
          (List.cons.inj heq).2 ▸ List.mem_append_right _ List.mem_cons_self
        simp only [List.mem_cons] at hmem
        obtain h | h | h | h := hmem
        · cases h
        · cases h
        · cases h
        · exact absurd rfl (hcalm _ h)
  · intro before after heq
    obtain ⟨after₁, hin, _⟩ | ⟨before₂, hin, rfl⟩ := @append_eq_append_cons _
      [recheckStep, i2c.statusStep reg, i2c.statusStep reg'] (i2c.resetStep :: tail) _ _ _ heq
    · have hmem : i2c.resetStep ∈ [recheckStep, i2c.statusStep reg, i2c.statusStep reg'] :=
        hin ▸ List.mem_append_right _ List.mem_cons_self
      simp only [List.mem_cons, List.not_mem_nil, or_false] at hmem
      obtain h | h | h := hmem <;> cases h
    · cases before₂ with
      | nil =>
          obtain ⟨_, rfl⟩ := List.cons.inj hin
          exact ⟨[], reg, reg', i2c.resetStep :: tail, [], by simp, hbusy, by simp, hwinit⟩
      | cons _ before₂ =>
          have hmem : i2c.resetStep ∈ tail :=
            (List.cons.inj hin).2 ▸ List.mem_append_right _ List.mem_cons_self
          obtain hdata | haddress := hcalm _ hmem
          · exact absurd rfl hdata
          · exact absurd rfl haddress

/-- Every round either finds the path free or resets. -/
theorem recoverTx_recovers {n : Nat} (h : Produces (recoverTx i2c n) steps 0) :
    Recovers i2c steps := by
  induction n generalizing steps with
  | zero =>
      obtain ⟨rfl, _⟩ := produces_pure.mp h
      exact .of_calm fun step hstep => absurd hstep List.not_mem_nil
  | succ n ih =>
      obtain ⟨_, rfl, hcheck⟩ := produces_delay_bind.mp h
      obtain ⟨reg, rest, rfl, hrest⟩ := produces_rd_bind.mp hcheck
      split at hrest
      next hfree =>
        obtain ⟨rfl, _⟩ := produces_pure.mp hrest
        exact .of_free hfree
      next hbusy =>
        obtain ⟨first, err, second, rfl, hwinit, hmore⟩ := produces_bind.mp hrest
        have hvalue := hwinit_yields.produces hwinit
        cases hvalue with
        | inr hfail =>
            subst hfail
            rw [if_pos (by decide)] at hmore
            exact absurd (produces_pure.mp hmore).2 (by decide)
        | inl hdone =>
            subst hdone
            rw [if_neg (by decide)] at hmore
            exact (Recovers.of_blocked hbusy hwinit).append (ih hmore)

/-- So does the check of the path. -/
theorem awaitTx_recovers (h : Produces (awaitTx i2c) steps 0) : Recovers i2c steps := by
  obtain ⟨reg, rest, rfl, hrest⟩ := produces_rd_bind.mp h
  have hcheck : Recovers i2c [i2c.statusStep reg] :=
    .of_calm fun step hstep => List.mem_singleton.mp hstep ▸ trivial
  split at hrest
  next =>
    obtain ⟨rfl, _⟩ := produces_pure.mp hrest
    exact hcheck
  next => exact hcheck.append (recoverTx_recovers hrest)

/-! ## Transfers -/

/-- After the check a send is calm. -/
theorem send_recovers {data : BitVec 32} (h : Produces (i2cSend i2c data) steps 0) :
    Recovers i2c steps := by
  obtain ⟨hfail, _⟩ | ⟨before, after, empty, hready, hpoll, rfl, _⟩ := send_produces h
  · exact absurd hfail (by decide)
  · refine (awaitTx_recovers hready).append (.of_calm ?_)
    have hafter := (only_poll_tx_empty calm_status 1000).produces hpoll
    simp only [List.mem_cons]
    rintro step (rfl | rfl | hstep)
    · exact calm_push data
    · trivial
    · exact hafter step hstep

/-- A receive is calm throughout. -/
theorem recv_recovers {result : Except Int (BitVec 32)}
    (h : Produces (i2cRecv i2c) steps result) : Recovers i2c steps := by
  have hpolls {found : Bool} {polls : List I2cStep}
      (hpoll : Produces (pollRx i2c 100) polls found) : Recovers i2c polls :=
    .of_calm ((only_poll_rx calm_status 100).produces hpoll)
  obtain ⟨_, hpoll⟩ | ⟨polls, data, hpoll, rfl, _⟩ := recv_produces h
  · exact hpolls hpoll
  · exact (hpolls hpoll).append (.of_calm fun step hstep => List.mem_singleton.mp hstep ▸ trivial)

/-- By induction, the words of a transfer. -/
theorem Serves.recovers {words : List BusWord} {bytes : List (BitVec 8)}
    (h : Serves i2c words steps bytes) : Recovers i2c steps := by
  induction h with
  | nil => exact .of_calm fun step hstep => absurd hstep List.not_mem_nil
  | push hsend _ ih => exact (send_recovers hsend).append ih
  | clock hsend hrecv _ ih =>
      exact (send_recovers hsend).append ((recv_recovers hrecv).append ih)

/-- The write of the GO bit is no reset. -/
theorem go_ne_reset (reg : BitVec 32) : reg ||| 0x01 ≠ 0x00cc := by
  intro heq
  have hbit := congrArg (BitVec.getLsbD · 0) heq
  simp at hbit

/-- The steps around the words are calm. -/
theorem framed_recovers (reg : BitVec 32) (h : Recovers i2c steps) :
    Recovers i2c (framed i2c reg steps) := by
  have hopen : Recovers i2c [⟨.extra .mutexLock, ()⟩, ⟨.rd (i2c.dev + i2cControl), reg⟩,
      ⟨.wr (reg ||| 0x01) (i2c.dev + i2cControl), ()⟩] := by
    refine .of_calm ?_
    simp only [List.mem_cons, List.not_mem_nil, or_false]
    rintro step (rfl | rfl | rfl)
    · trivial
    · trivial
    · exact Or.inl (go_ne_reset reg)
  exact hopen.append
    (h.append (.of_calm fun step hstep => List.mem_singleton.mp hstep ▸ trivial))

/-- What a joined list ends with, before a step that is none of these, stands after the step. -/
theorem suffix_after {α : Type} {first second init tail : List α} {x : α}
    (h : first ++ x :: second = init ++ tail) (hx : x ∉ tail) :
    ∃ middle, second = middle ++ tail := by
  obtain ⟨before, hinit, hrest⟩ | ⟨rest, htail, hrest⟩ := append_eq_append_cons h.symm
  · exact ⟨before, hrest⟩
  · exact absurd (htail ▸ List.mem_append_right _ List.mem_cons_self) hx

/-- What a joined list begins with, before a step that is none of these, stands before the
step. -/
theorem prefix_before {α : Type} {first second head rest : List α} {x : α}
    (h : first ++ x :: second = head ++ rest) (hx : x ∉ head) :
    ∃ middle, first = head ++ middle := by
  obtain ⟨after, hhead, _⟩ | ⟨before, _, hfirst⟩ := append_eq_append_cons h.symm
  · exact absurd (hhead ▸ List.mem_append_right _ List.mem_cons_self) hx
  · exact ⟨before, hfirst⟩

/-- In a transfer that returned `num`, every re-initialisation returned 0, and one happened
between the first and the last word exactly when the transmit path was still blocked there at a
recheck. -/
theorem reset_within_iff (i2c : I2c) (msgs : List I2cMsg) (steps : List I2cStep)
    (msgs' : List I2cMsg) (hrun : Produces (i2cXfer i2c msgs) steps (msgs.length, msgs')) :
    (ResetWithin i2c steps ↔ BlockedWithin i2c steps) ∧
      ∀ before after, steps = before ++ i2c.resetStep :: after →
        ∃ reg hwinit rest, i2c.resetStep :: after = hwinit ++ rest ∧
          Produces (i2cHwinit i2c) (i2c.statusStep reg :: hwinit) 0 := by
  obtain ⟨reg, middle, bytes, rfl, hserved, _⟩ := xfer_serves hrun
  have hrecovers := framed_recovers reg hserved.recovers
  refine ⟨⟨?_, ?_⟩, ?_⟩
  · rintro ⟨before, first, between, between', last, after, heq⟩
    -- the three steps before the reset stand after the first word
    obtain ⟨init, busy, reg', _, _, hinit, hbusy, _, _⟩ :=
      hrecovers.resets (before ++ i2c.pushStep first :: between)
        (between' ++ i2c.pushStep last :: after) (by rw [heq]; simp)
    obtain ⟨between₁, rfl⟩ := suffix_after hinit (by simp [push_ne_recheck, push_ne_status])
    exact ⟨before, first, between₁, busy, i2c.statusStep reg' :: i2c.resetStep :: between', last,
      after, hbusy, by rw [heq]; simp⟩
  · rintro ⟨before, first, between, busy, between', last, after, hbusy, heq⟩
    -- the reset after the recheck stands before the last word
    obtain ⟨found, rest, hrest, hreset⟩ :=
      hrecovers.rechecks (before ++ i2c.pushStep first :: between) _ (by rw [heq]; simp; rfl)
    obtain ⟨hfound, htail⟩ := List.cons.inj hrest
    cases hfound
    obtain ⟨reg', rest', rfl⟩ := hreset hbusy
    obtain ⟨between₁, rfl⟩ := @prefix_before _ _ _ [i2c.statusStep reg', i2c.resetStep] rest' _
      htail (by simp [push_ne_status, push_ne_reset])
    exact ⟨before, first, between ++ [recheckStep, i2c.statusStep busy, i2c.statusStep reg'],
      between₁, last, after, by rw [heq]; simp⟩
  · intro before after heq
    obtain ⟨_, _, reg', hwinit, rest, _, _, hsplit, hdone⟩ := hrecovers.resets before after heq
    exact ⟨reg', hwinit, rest, hsplit, hdone⟩

/-! ## A transfer that is reset on the way -/

/-- Readings of a controller whose `TX_FIFO` is full when the second word is due, and free
after a re-initialisation. -/
def blockedReadings : List (BitVec 32) :=
  [0xc0, 0x40, 0x40, 0x80, 0x80, 0x41, 0xc0, 0x41, 0x41, 0x41]

/-- A write of one byte. -/
def byteWrite : List I2cMsg := [⟨0x50, 0, [0x12]⟩]

/-- The transcript of the write on that controller. -/
def blockedWrite : List I2cStep :=
  (i2cXfer I2c.plain byteWrite).transcript (i2cWorld fun n => blockedReadings.getD n 0) 0

/-- The write returns `num`. -/
theorem blocked_write_produces :
    Produces (i2cXfer I2c.plain byteWrite) blockedWrite ((byteWrite.length : Int), byteWrite) :=
  produces_of_run (by decide +kernel)

/-- Its path was blocked, and the controller reset. -/
theorem blocked_write_reset :
    ResetWithin I2c.plain blockedWrite ↔ BlockedWithin I2c.plain blockedWrite :=
  (reset_within_iff I2c.plain byteWrite blockedWrite byteWrite blocked_write_produces).1

/-- The write returns `num` though the controller was reset between its two words. -/
theorem reset_transfer_succeeds :
    ¬ ∀ (i2c : I2c) (msgs : List I2cMsg) (steps : List I2cStep) (msgs' : List I2cMsg),
      Produces (i2cXfer i2c msgs) steps ((msgs.length : Int), msgs') →
        ¬ ResetWithin i2c steps := by
  intro hnever
  exact hnever _ _ _ _ blocked_write_produces
    ⟨blockedWrite.take 4, 0x1a0, (blockedWrite.drop 5).take 6, (blockedWrite.drop 12).take 12,
      0x212, blockedWrite.drop 25, rfl⟩

end Saa7231
