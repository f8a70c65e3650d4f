import Saa7231.I2c.Reset

/-!
# The check before a word

`saa7231_i2c_send` checks the transmit path before it writes its word, and re-initialises the
controller while the path is busy, up to five times. The loop is left in two ways, by a check that
finds the path free and by the end of the tries, and nothing after it tells them apart:
`send_guarded_iff` says that the word is held back from a busy path unless the tries run out.
-/

namespace Saa7231

open Interaction Bus Program

variable {i2c : I2c} {steps : List I2cStep} {data : BitVec 32} {err : Int}

/-- The status shows a blocked or a full transmit path. -/
def TxBusy (reg : BitVec 32) : Prop := reg &&& i2cTxbusy ≠ 0

/-- Every word is written on a status reading, the latest before it, that shows a free path. -/
def SendGuarded (i2c : I2c) (steps : List I2cStep) : Prop :=
  ∀ before word after, steps = before ++ i2c.pushStep word :: after →
    ∃ reg, (readings (i2c.dev + i2cStatus) before).getLast? = some reg ∧ ¬ TxBusy reg

/-- The check at entry and those after the waits of 10 ms all find the path busy. -/
def StaysBusy (i2c : I2c) (steps : List I2cStep) : Prop :=
  (∀ reg rest, steps = i2c.statusStep reg :: rest → TxBusy reg) ∧
    ∀ before reg after, steps = before ++ recheckStep :: i2c.statusStep reg :: after → TxBusy reg

/-- A send whose checks all find the path busy fails and writes no word. -/
def BusyRefused (i2c : I2c) (steps : List I2cStep) (err : Int) : Prop :=
  StaysBusy i2c steps → err < 0 ∧ i2c.words steps = []

/-- Rounds of the recovery, each of which finds the path busy and re-initialises the controller
with success. -/
inductive BusyRounds (i2c : I2c) : Nat → List I2cStep → Prop
  | none : BusyRounds i2c 0 []
  | round {n : Nat} {reg : BitVec 32} {reset rest : List I2cStep} (hbusy : TxBusy reg)
      (hreset : Produces (i2cHwinit i2c) reset 0) (hrest : BusyRounds i2c n rest) :
      BusyRounds i2c (n + 1) (recheckStep :: i2c.statusStep reg :: (reset ++ rest))

/-- The check at entry and five more find the path busy, and each of the five is followed by a
re-initialisation that succeeds. -/
structure Exhausted (i2c : I2c) (steps : List I2cStep) (rounds after : List I2cStep) : Prop where
  busy : ∃ reg, TxBusy reg ∧ steps = i2c.statusStep reg :: (rounds ++ after)
  rounds : BusyRounds i2c 5 rounds

/-! ## The recovery -/

/-- The recovery ends with a check that finds the path free, after all its rounds, or with an
error. -/
theorem recoverTx_cases {n : Nat} (h : Produces (recoverTx i2c n) steps err) :
    (∃ before reg, steps = before ++ [recheckStep, i2c.statusStep reg] ∧ ¬ TxBusy reg) ∨
      (err = 0 ∧ BusyRounds i2c n steps) ∨ err = -eio := by
  induction n generalizing steps with
  | zero =>
      obtain ⟨rfl, rfl⟩ := produces_pure.mp h
      exact .inr (.inl ⟨rfl, .none⟩)
  | succ n ih =>
      obtain ⟨_, rfl, hcheck⟩ := produces_delay_bind.mp h
      obtain ⟨reg, rest, rfl, hrest⟩ := produces_rd_bind.mp hcheck
      split at hrest
      next hfree =>
        obtain ⟨rfl, _⟩ := produces_pure.mp hrest
        exact .inl ⟨[], reg, rfl, not_not.mpr hfree⟩
      next hbusy =>
        obtain ⟨reset, ret, later, rfl, hreset, hlater⟩ := produces_bind.mp hrest
        rcases hwinit_yields.produces hreset with rfl | rfl
        · rw [if_neg (by decide)] at hlater
          rcases ih hlater with ⟨before, free, rfl, hfree⟩ | ⟨herr, hrounds⟩ | herr
          · refine .inl ⟨recheckStep :: i2c.statusStep reg :: (reset ++ before), free, ?_, hfree⟩
            simp [recheckStep, I2c.statusStep]
          · exact .inr (.inl ⟨herr, .round hbusy hreset hrounds⟩)
          · exact .inr (.inr herr)
        · rw [if_pos (by decide)] at hlater
          exact .inr (.inr (produces_pure.mp hlater).2)

/-- With these answers the recovery goes through all its rounds and returns 0. -/
theorem BusyRounds.produces {n : Nat} (h : BusyRounds i2c n steps) :
    Produces (recoverTx i2c n) steps 0 := by
  induction h with
  | none => exact produces_pure.mpr ⟨rfl, rfl⟩
  | round hbusy hreset _ ih =>
      refine produces_delay_bind.mpr ⟨_, rfl, produces_rd_bind.mpr ⟨_, _, rfl, ?_⟩⟩
      rw [if_neg hbusy]
      exact produces_bind.mpr ⟨_, 0, _, rfl, hreset, ih⟩

/-- A successful re-initialisation does not wait for 10 ms. -/
theorem recheck_notMem_hwinit (h : Produces (i2cHwinit i2c) steps 0) : recheckStep ∉ steps := by
  obtain ⟨reg, tail, rfl, hcalm⟩ := hwinit_produces h
  intro hmem
  rcases List.mem_cons.mp hmem with hstatus | hmem
  · cases hstatus
  · rcases List.mem_cons.mp hmem with hreset | htail
    · cases hreset
    · exact hcalm recheckStep htail rfl

/-- Every recheck in the rounds is followed there by a busy reading. -/
theorem BusyRounds.recheck_busy {n : Nat} (h : BusyRounds i2c n steps) {before after : List I2cStep}
    (hsplit : steps = before ++ recheckStep :: after) :
    ∃ reg rest, after = i2c.statusStep reg :: rest ∧ TxBusy reg := by
  induction h generalizing before with
  | none => exact absurd hsplit.symm (List.append_ne_nil_of_right_ne_nil _ (List.cons_ne_nil _ _))
  | @round n reg reset rest hbusy hreset hrest ih =>
      rcases before with _ | ⟨first, before⟩
      · exact ⟨reg, _, (List.cons.inj hsplit).2.symm, hbusy⟩
      have htail := (List.cons.inj hsplit).2
      rcases before with _ | ⟨second, before⟩
      · exact absurd (List.cons.inj htail).1 (by intro heq; cases heq)
      obtain ⟨after₁, hin, _⟩ | ⟨before₂, hin, _⟩ :=
        append_eq_append_cons (List.cons.inj htail).2
      · have hmem : recheckStep ∈ reset := hin ▸ List.mem_append_right _ List.mem_cons_self
        exact absurd hmem (recheck_notMem_hwinit hreset)
      · exact ih hin

/-! ## The word -/

/-- Around the word of a send there is no other. -/
theorem push_unique {before after before' after' : List I2cStep} {word : BitVec 32}
    (hbefore : ∀ step ∈ before, Quiet i2c step.1) (hafter : ∀ step ∈ after, Quiet i2c step.1)
    (h : before ++ i2c.pushStep data :: after = before' ++ i2c.pushStep word :: after') :
    before' = before := by
  have hquiet : ∀ list : List I2cStep, (∀ step ∈ list, Quiet i2c step.1) →
      i2c.pushStep word ∉ list := fun list hlist hmem => hlist _ hmem rfl
  obtain ⟨after₁, hin, _⟩ | ⟨before₂, hin, rfl⟩ := append_eq_append_cons h
  · exact absurd (hin ▸ List.mem_append_right _ List.mem_cons_self) (hquiet before hbefore)
  · rcases before₂ with _ | ⟨first, before₂⟩
    · exact List.append_nil before
    · have hmem : i2c.pushStep word ∈ after :=
        (List.cons.inj hin).2 ▸ List.mem_append_right _ List.mem_cons_self
      exact absurd hmem (hquiet after hafter)

/-- A send either fails without a word, or writes its word and nothing to `TX_FIFO` beside it. -/
theorem send_cases (h : Produces (i2cSend i2c data) steps err) :
    (err = -eio ∧ ∀ step ∈ steps, Quiet i2c step.1) ∨
      ∃ before after, steps = before ++ i2c.pushStep data :: after ∧
        Produces (awaitTx i2c) before 0 ∧ (∀ step ∈ before, Quiet i2c step.1) ∧
        ∀ step ∈ after, Quiet i2c step.1 ∧ Calm i2c step.1 := by
  rcases send_produces h with ⟨herr, hfail⟩ | ⟨before, after, empty, hready, hpoll, rfl, _⟩
  · exact .inl ⟨herr, (only_await_tx quiet_upkeep).produces hfail⟩
  · refine .inr ⟨before, _, rfl, hready, (only_await_tx quiet_upkeep).produces hready, ?_⟩
    intro step hstep
    rcases List.mem_cons.mp hstep with rfl | hpolled
    · exact ⟨trivial, trivial⟩
    · exact ⟨(only_poll_tx_empty quiet_status 1000).produces hpoll step hpolled,
        (only_poll_tx_empty calm_status 1000).produces hpoll step hpolled⟩

/-- Without a word there is nothing to guard. -/
theorem guarded_of_quiet (h : ∀ step ∈ steps, Quiet i2c step.1) : SendGuarded i2c steps := by
  intro before word after hsplit
  have hmem : i2c.pushStep word ∈ steps := hsplit ▸ List.mem_append_right _ List.mem_cons_self
  exact absurd rfl (h _ hmem)

/-! ## A check that finds the path free -/

/-- The check passes because its last reading shows a free path, or the tries have run out. -/
theorem awaitTx_cases (h : Produces (awaitTx i2c) steps 0) :
    (∃ init reg, steps = init ++ [i2c.statusStep reg] ∧ ¬ TxBusy reg ∧
        (init = [] ∨ ∃ before, init = before ++ [recheckStep])) ∨
      ∃ reg rounds, TxBusy reg ∧ steps = i2c.statusStep reg :: rounds ∧
        BusyRounds i2c 5 rounds := by
  obtain ⟨reg, rest, rfl, hrest⟩ := produces_rd_bind.mp h
  split at hrest
  next hfree =>
    obtain ⟨rfl, _⟩ := produces_pure.mp hrest
    exact .inl ⟨[], reg, rfl, not_not.mpr hfree, .inl rfl⟩
  next hbusy =>
    rcases recoverTx_cases hrest with ⟨before, free, rfl, hfree⟩ | ⟨_, hrounds⟩ | herr
    · refine .inl ⟨i2c.statusStep reg :: before ++ [recheckStep], free, ?_, hfree, .inr ⟨_, rfl⟩⟩
      simp [I2c.statusStep]
    · exact .inr ⟨reg, rest, hbusy, rfl, hrounds⟩
    · exact absurd herr (by decide)

/-- A send whose last check found the path free. -/
structure Cleared (i2c : I2c) (steps : List I2cStep) : Prop where
  guarded : SendGuarded i2c steps
  free : ¬ StaysBusy i2c steps

/-- A word behind a reading of a free path is cleared. -/
theorem cleared_of_free {before after init : List I2cStep} {reg : BitVec 32}
    (hbefore : ∀ step ∈ before, Quiet i2c step.1) (hafter : ∀ step ∈ after, Quiet i2c step.1)
    (hlast : before = init ++ [i2c.statusStep reg]) (hfree : ¬ TxBusy reg)
    (hinit : init = [] ∨ ∃ waits, init = waits ++ [recheckStep]) :
    Cleared i2c (before ++ i2c.pushStep data :: after) where
  guarded before' word after' hsplit := by
    refine ⟨reg, ?_, hfree⟩
    rw [push_unique hbefore hafter hsplit, hlast, readings_append]
    simp [I2c.statusStep, readings]
  free := by
    rintro ⟨hentry, hrechecks⟩
    rcases hinit with rfl | ⟨waits, rfl⟩
    · exact hfree (hentry reg (i2c.pushStep data :: after) (by rw [hlast]; rfl))
    · exact hfree (hrechecks waits reg (i2c.pushStep data :: after) (by rw [hlast]; simp))

/-! ## No tries left -/

/-- A busy check and five busy rounds are answers with which the check passes. -/
theorem BusyRounds.await {rounds : List I2cStep} {reg : BitVec 32} (h : BusyRounds i2c 5 rounds)
    (hbusy : TxBusy reg) : Produces (awaitTx i2c) (i2c.statusStep reg :: rounds) 0 := by
  refine produces_rd_bind.mpr ⟨reg, rounds, rfl, ?_⟩
  rw [if_neg hbusy]
  exact h.produces

/-- When the tries have run out the word is written, and little happens after it. -/
theorem Exhausted.pushes {rounds after : List I2cStep} (hout : Exhausted i2c steps rounds after)
    (h : Produces (i2cSend i2c data) steps err) :
    ∃ rest, after = i2c.pushStep data :: rest ∧ ∀ step ∈ rest, Calm i2c step.1 := by
  obtain ⟨reg, hbusy, rfl⟩ := hout.busy
  have hgo := (hout.rounds.await hbusy).continues h
  rw [if_neg (by decide)] at hgo
  obtain ⟨_, rfl, hwritten⟩ := produces_wr_bind.mp hgo
  obtain ⟨⟨⟩, _, rfl, hwaited⟩ := produces_extra_bind.mp hwritten
  refine ⟨_, rfl, fun step hstep => ?_⟩
  rcases List.mem_cons.mp hstep with rfl | hpolled
  · trivial
  · refine Only.produces (Only.bind (only_poll_tx_empty calm_status 1000) fun empty => ?_) hwaited step hpolled
    cases empty <;> exact only_pure _

/-- No check of such a send finds the path free. -/
theorem Exhausted.stays_busy {rounds after : List I2cStep} (hout : Exhausted i2c steps rounds after)
    (h : Produces (i2cSend i2c data) steps err) : StaysBusy i2c steps := by
  obtain ⟨rest, rfl, hcalm⟩ := hout.pushes h
  obtain ⟨reg, hbusy, rfl⟩ := hout.busy
  constructor
  · intro reg' rest' hsplit
    cases (List.cons.inj hsplit).1
    exact hbusy
  · intro before reg' after' hsplit
    rcases before with _ | ⟨first, before⟩
    · cases (List.cons.inj hsplit).1
    rcases append_eq_append_cons (List.cons.inj hsplit).2 with ⟨tail, hin, htail⟩ | ⟨waits, hin, _⟩
    · obtain ⟨found, rest', rfl, hfound⟩ := hout.rounds.recheck_busy hin
      cases (List.cons.inj htail).1
      exact hfound
    · have hmem : recheckStep ∈ i2c.pushStep data :: rest :=
        hin ▸ List.mem_append_right _ List.mem_cons_self
      rcases List.mem_cons.mp hmem with hpush | hrest
      · exact absurd hpush.symm (push_ne_recheck data)
      · exact absurd rfl (hcalm recheckStep hrest)

/-- Every round has a last reading. -/
theorem BusyRounds.last_reading {n : Nat} (h : BusyRounds i2c (n + 1) steps) :
    ∃ last, (readings (i2c.dev + i2cStatus) steps).getLast? = some last := by
  cases h with
  | @round _ reg reset rest hbusy hreset hrest =>
      refine ⟨(readings (i2c.dev + i2cStatus) (reset ++ rest)).getLast?.getD reg, ?_⟩
      show (readings _ (i2c.statusStep reg :: (reset ++ rest))).getLast? = _
      unfold I2c.statusStep
      rw [readings_rd, if_pos rfl, List.getLast?_cons]

/-- An earlier reading does not change the last. -/
theorem last_reading_cons {reg last : BitVec 32}
    (h : (readings (i2c.dev + i2cStatus) steps).getLast? = some last) :
    (readings (i2c.dev + i2cStatus) (i2c.statusStep reg :: steps)).getLast? = some last := by
  unfold I2c.statusStep
  rw [readings_rd, if_pos rfl, List.getLast?_cons, h]
  rfl

/-- The words of a send whose tries have run out are not none. -/
theorem Exhausted.not_refused {rounds after : List I2cStep}
    (hout : Exhausted i2c steps rounds after)
    (h : Produces (i2cSend i2c data) steps err) : ¬ BusyRefused i2c steps err := by
  intro hrefused
  have hnone := (hrefused (hout.stays_busy h)).2
  obtain ⟨rest, rfl, _⟩ := hout.pushes h
  obtain ⟨reg, _, rfl⟩ := hout.busy
  have hword := List.filterMap_eq_nil_iff.mp hnone (i2c.pushStep data) (by simp)
  rw [show i2c.word (i2c.pushStep data) = some data from if_pos rfl] at hword
  exact absurd hword (Option.some_ne_none data)

/-- A send whose tries have run out, with the status still busy, is not guarded. -/
theorem Exhausted.not_guarded {rounds after : List I2cStep} {last : BitVec 32}
    (hout : Exhausted i2c steps rounds after)
    (hlast : (readings (i2c.dev + i2cStatus) rounds).getLast? = some last) (hbusy : TxBusy last)
    (h : Produces (i2cSend i2c data) steps err) : ¬ SendGuarded i2c steps := by
  intro hguarded
  obtain ⟨rest, rfl, _⟩ := hout.pushes h
  obtain ⟨reg, _, rfl⟩ := hout.busy
  obtain ⟨found, hfound, hfree⟩ := hguarded (i2c.statusStep reg :: rounds) data rest rfl
  rw [last_reading_cons hlast] at hfound
  exact hfree (Option.some.inj hfound ▸ hbusy)

/-- A send fails without a word, has found the path free, or has no tries left. -/
theorem send_quiet_or_cleared_or_exhausted (h : Produces (i2cSend i2c data) steps err) :
    (err = -eio ∧ ∀ step ∈ steps, Quiet i2c step.1) ∨ Cleared i2c steps ∨
      ∃ reg rounds after, steps = i2c.statusStep reg :: rounds ++ i2c.pushStep data :: after ∧
        Exhausted i2c steps rounds (i2c.pushStep data :: after) ∧
        (∀ step ∈ i2c.statusStep reg :: rounds, Quiet i2c step.1) ∧
        ∀ step ∈ after, Quiet i2c step.1 := by
  rcases send_cases h with hfail | ⟨before, after, rfl, hready, hbefore, hafter⟩
  · exact .inl hfail
  have hquiet : ∀ step ∈ after, Quiet i2c step.1 := fun step hstep => (hafter step hstep).1
  rcases awaitTx_cases hready with
    ⟨init, reg, hlast, hfree, hinit⟩ | ⟨reg, rounds, hbusy, rfl, hout⟩
  · exact .inr (.inl (cleared_of_free hbefore hquiet hlast hfree hinit))
  · exact .inr (.inr ⟨reg, rounds, after, rfl, ⟨⟨reg, hbusy, rfl⟩, hout⟩, hbefore, hquiet⟩)

/-- For every transcript of a send: it writes its word only on a latest status reading that shows
a free path if and only if it is not the case that all its tries are used up and the status read
last in them is busy; and it does this, and a send that finds the path busy throughout fails
without a word, if and only if its tries are not used up. -/
theorem send_guarded_iff (i2c : I2c) (data : BitVec 32) (steps : List I2cStep) (err : Int)
    (h : Produces (i2cSend i2c data) steps err) :
    (SendGuarded i2c steps ↔ ¬ ∃ rounds after last, Exhausted i2c steps rounds after ∧
        (readings (i2c.dev + i2cStatus) rounds).getLast? = some last ∧ TxBusy last) ∧
      (SendGuarded i2c steps ∧ BusyRefused i2c steps err ↔
        ¬ ∃ rounds after, Exhausted i2c steps rounds after) := by
  rcases send_quiet_or_cleared_or_exhausted h with
    ⟨herr, hquiet⟩ | hcleared | ⟨reg, rounds, after, hsplit, hout, hbefore, hafter⟩
  · have hnone : ¬ ∃ rounds after, Exhausted i2c steps rounds after := by
      rintro ⟨rounds, after, hout⟩
      obtain ⟨rest, rfl, _⟩ := hout.pushes h
      obtain ⟨reg, _, rfl⟩ := hout.busy
      exact hquiet (i2c.pushStep data) (by simp) rfl
    have hguarded := guarded_of_quiet hquiet
    refine ⟨⟨fun _ => ?_, fun _ => hguarded⟩, ⟨fun _ => hnone, fun _ => ⟨hguarded, fun _ => ?_⟩⟩⟩
    · exact fun ⟨rounds, after, _, hout, _⟩ => hnone ⟨rounds, after, hout⟩
    · exact ⟨by rw [herr]; decide, words_quiet hquiet⟩
  · have hnone : ¬ ∃ rounds after, Exhausted i2c steps rounds after :=
      fun ⟨_, _, hout⟩ => hcleared.free (hout.stays_busy h)
    refine ⟨⟨fun _ => ?_, fun _ => hcleared.guarded⟩, ⟨fun _ => hnone, fun _ => ?_⟩⟩
    · exact fun ⟨rounds, after, _, hout, _⟩ => hnone ⟨rounds, after, hout⟩
    · exact ⟨hcleared.guarded, fun hbusy => absurd hbusy hcleared.free⟩
  · refine ⟨⟨fun hguarded => ?_, fun hnone => ?_⟩, ⟨fun hboth => ?_, fun hnone => ?_⟩⟩
    · exact fun ⟨_, _, _, hout', hlast, hbusy⟩ => hout'.not_guarded hlast hbusy h hguarded
    · intro before word after' hsplit'
      obtain ⟨last, hlast⟩ := hout.rounds.last_reading
      rw [push_unique hbefore hafter (hsplit.symm.trans hsplit')]
      exact ⟨last, last_reading_cons hlast, fun hbusy => hnone ⟨_, _, last, hout, hlast, hbusy⟩⟩
    · exact fun ⟨_, _, hout'⟩ => hout'.not_refused h hboth.2
    · exact absurd ⟨_, _, hout⟩ hnone

/-! ## A path that stays blocked -/

/-- A re-initialisation that succeeds and leaves the transmit path blocked. -/
def blockedReset : List I2cStep :=
  (i2cHwinit I2c.plain : I2cProgram Int).transcript
    (i2cWorld fun n => if n = 1 then 0xc0 else 0x841) 0

/-- The controller can be re-initialised. -/
theorem blocked_reset_produces : Produces (i2cHwinit I2c.plain) blockedReset 0 :=
  produces_of_run (by decide +kernel)

/-- It still reads busy then. -/
theorem blocked_busy : TxBusy 0x841#32 := by
  unfold TxBusy
  decide

/-- Rounds of the recovery on that controller. -/
def blockedRounds : Nat → List I2cStep
  | 0 => []
  | n + 1 => recheckStep :: I2c.plain.statusStep 0x841#32 :: (blockedReset ++ blockedRounds n)

/-- So it does after any number of rounds. -/
theorem blocked_rounds (n : Nat) : BusyRounds I2c.plain n (blockedRounds n) := by
  induction n with
  | zero => exact .none
  | succ n ih => exact .round blocked_busy blocked_reset_produces ih

/-- The transcript of a send on that controller, whose `TX_FIFO` is empty. -/
def blockedSend : List I2cStep :=
  I2c.plain.statusStep 0x841#32 :: (blockedRounds 5 ++
    [I2c.plain.pushStep 0x1a0, ⟨.extra (.udelay 200), ()⟩, I2c.plain.statusStep 0x841#32])

/-- The tries run out. -/
theorem blocked_send_exhausted : Exhausted I2c.plain blockedSend (blockedRounds 5)
    [I2c.plain.pushStep 0x1a0, ⟨.extra (.udelay 200), ()⟩, I2c.plain.statusStep 0x841#32] :=
  ⟨⟨0x841#32, blocked_busy, rfl⟩, blocked_rounds 5⟩

/-- The send reports success all the same. -/
theorem blocked_send_produces : Produces (i2cSend I2c.plain 0x1a0) blockedSend 0 := by
  refine produces_bind.mpr ⟨_, 0, _, rfl, (blocked_rounds 5).await blocked_busy, ?_⟩
  rw [if_neg (by decide)]
  refine produces_wr_bind.mpr ⟨_, rfl, produces_extra_bind.mpr ⟨(), _, rfl, ?_⟩⟩
  refine produces_bind.mpr ⟨[I2c.plain.statusStep 0x841#32], true, [], rfl, ?_, ?_⟩
  · refine produces_rd_bind.mpr ⟨0x841#32, [], rfl, ?_⟩
    rw [if_neg (by decide)]
    exact produces_pure.mpr ⟨rfl, rfl⟩
  · exact produces_pure.mpr ⟨rfl, rfl⟩

/-- Its last reading was a busy one. -/
theorem blocked_last_reading :
    (readings (I2c.plain.dev + i2cStatus) (blockedRounds 5)).getLast? = some 0x841#32 := by
  decide +kernel

/-- Every reading of the status shows a blocked path, and the send writes its word and returns
0. -/
theorem blocked_send_writes : Produces (i2cSend I2c.plain 0x1a0) blockedSend 0 ∧
    ¬ SendGuarded I2c.plain blockedSend ∧ ¬ BusyRefused I2c.plain blockedSend 0 :=
  ⟨blocked_send_produces,
    blocked_send_exhausted.not_guarded blocked_last_reading blocked_busy blocked_send_produces,
    blocked_send_exhausted.not_refused blocked_send_produces⟩

/-- A send on a ready controller. -/
theorem ready_send_guarded :
    SendGuarded I2c.plain ((i2cSend I2c.plain 0x1a0).transcript (i2cWorld fun _ => 0x40) 0) := by
  refine ((send_guarded_iff I2c.plain 0x1a0 _ _ (produces_run (i2cWorld fun _ => 0x40) _ 0)).1).mpr
    ?_
  rintro ⟨rounds, after, last, hout, _⟩
  obtain ⟨reg, hbusy, hsteps⟩ := hout.busy
  have hfirst : I2c.plain.statusStep 0x40#32 = I2c.plain.statusStep reg :=
    Option.some.inj (congrArg List.head? hsteps)
  cases hfirst
  exact hbusy (by decide)

end Saa7231
