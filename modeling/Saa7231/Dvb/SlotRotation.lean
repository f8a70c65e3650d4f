import Saa7231.Dvb.Evhandler
import Saa7231.Dvb.StartStop
import Saa7231.Interaction.RoundRobin
import Saa7231.Interaction.Runs

/-!
# The slot table over starts, stops and interrupts

The interrupts fill the eight slots in turn from the sixteen buffers of the ring, and every
start of the DMA writes the first eight buffers into the slots without moving the ring. The
slots are therefore a round-robin table (`Interaction.RoundRobin`) whose first buffer is the
position that the ring had at the last start. `slots_distinct_iff` is the exact condition on
that position under which the slots name eight different buffers.
-/

namespace Saa7231

open Interaction Bus

/-! ## Runs of an adapter -/

/-- What can happen to an adapter that is not removed, each with what the hardware does
meanwhile. -/
inductive TsEvent where
  | startFeed (env : Environment)
  | stopFeed (env : Environment)
  | interrupt (env : Environment)

/-- An adapter, its board, and the tail that the ring had when the slot table was last filled
with the first eight buffers. -/
structure Rotation where
  dvb : Dvb
  board : Board
  tableTail : Nat

/-- The tail of the ring if this start fills the slot table, otherwise the recorded tail. -/
def Dvb.tableTail (env : Environment) (dvb : Dvb) (recorded : Nat) : Nat :=
  match dvb.stream with
  | none => recorded
  | some stream =>
      if dvb.feeds = 0 ∧ stream.Clockable env ∧ TsPort stream.portId then stream.ring.tail
      else recorded

/-- One event. -/
def Rotation.step (rotation : Rotation) : TsEvent → Rotation
  | .startFeed env =>
      let result := (startFeed rotation.dvb).run (boardWorld env) rotation.board
      ⟨result.1.2, result.2, rotation.dvb.tableTail env rotation.tableTail⟩
  | .stopFeed env =>
      let result := (stopFeed rotation.dvb).run (boardWorld env) rotation.board
      ⟨result.1.2, result.2, rotation.tableTail⟩
  | .interrupt env =>
      let result := (adapterEvhandler rotation.dvb).run (boardWorld env) rotation.board
      ⟨result.1, result.2, rotation.tableTail⟩

/-- An adapter with a connected frontend, after its stream was initialised. -/
def Rotation.opened (adapter : Nat) (init : Option Stream × Board) : Rotation where
  dvb := ⟨adapter, 47 + adapter, true, 0, init.1⟩
  board := init.2
  tableTail := 0

/-- The slots of a stream name eight different buffers of its ring. -/
def NamesDistinctBuffers (stream : Stream) (board : Board) : Prop :=
  ∃ name : Nat → Nat,
    (∀ i < 8, name i < ringsiz ∧
      board.slot (dmach stream.portId) i = stream.ring.ptPhys (name i)) ∧
    ∀ i < 8, ∀ j < 8, name i = name j → i = j

/-- Every stream of the adapter has different buffers in its slots. -/
def Rotation.Distinct (rotation : Rotation) : Prop :=
  ∀ stream, rotation.dvb.stream = some stream → NamesDistinctBuffers stream rotation.board

/-- An interrupt comes while the slot table dates from a ring whose tail was at zero or behind
the first eight buffers. -/
def TsEvent.TailOutside (rotation : Rotation) : TsEvent → Prop
  | .interrupt _ => rotation.tableTail = 0 ∨ 8 ≤ rotation.tableTail
  | .startFeed _ | .stopFeed _ => True

/-- A start does not overflow the C `int` in `index_w`. -/
def TsEvent.NoOverflow (rotation : Rotation) : TsEvent → Prop
  | .startFeed _ => ∀ stream, rotation.dvb.stream = some stream → stream.indexW + 8 < 2 ^ 31
  | .stopFeed _ | .interrupt _ => True

/-! ## The phase of the slot index -/

/-- The slot index after a number of interrupts since the table was filled: the next slot is
that number modulo eight. -/
structure InPhase (indexW : Int) (count : Nat) : Prop where
  nonneg : 0 ≤ indexW
  next : nextSlot indexW = ((count % 8 : Nat) : Int)

/-- Filling the table pushes the index behind the last slot. -/
theorem in_phase_fill {indexW : Int} {count : Nat} (h : InPhase indexW count)
    (hbound : indexW + 8 < 2 ^ 31) : InPhase ((indexW + 8).bmod (2 ^ 32)) 0 := by
  have hnonneg := h.nonneg
  have hsame : (indexW + 8).bmod (2 ^ 32) = indexW + 8 :=
    Int.bmod_eq_of_le (by omega) (by omega)
  rw [hsame]
  refine ⟨by omega, ?_⟩
  show (if indexW + 8 > (ts2dBuffers : Int) - 1 then 0 else indexW + 8) = 0
  exact if_pos (by unfold ts2dBuffers; omega)

/-- Every interrupt takes the next slot. -/
theorem in_phase_next {indexW : Int} {count : Nat} (h : InPhase indexW count) :
    InPhase ((nextSlot indexW + 1).bmod (2 ^ 32)) (count + 1) := by
  have hslot : count % 8 < 8 := Nat.mod_lt _ (by decide)
  have hsame : (nextSlot indexW + 1).bmod (2 ^ 32) = nextSlot indexW + 1 := by
    rw [h.next]
    exact Int.bmod_eq_of_le (by omega) (by omega)
  rw [hsame, h.next]
  refine ⟨by omega, ?_⟩
  unfold nextSlot ts2dBuffers
  split <;> omega

/-! ## The rotation -/

/-- The slots are the round-robin table after `count` interrupts since the table was filled
at ring position `tableTail`. -/
structure Rotating (stream : Stream) (board : Board) (tableTail count : Nat) : Prop where
  equipped : stream.Equipped
  tail : tableTail < ringsiz
  idle : stream.ring.Idle ((tableTail + count) % ringsiz)
  phase : InPhase stream.indexW count
  slot : ∀ i < 8, board.slot (dmach stream.portId) i =
    stream.ring.ptPhys (RoundRobin.table 8 ringsiz tableTail count i)

variable {stream : Stream} {board : Board} {tableTail count : Nat}

/-- The names of the slots are forced: different buffers have different page tables. -/
theorem Rotating.distinct_iff (h : Rotating stream board tableTail count) :
    NamesDistinctBuffers stream board ↔
      ∀ i < 8, ∀ j < 8, RoundRobin.table 8 ringsiz tableTail count i =
        RoundRobin.table 8 ringsiz tableTail count j → i = j := by
  have hlt : ∀ i < 8, RoundRobin.table 8 ringsiz tableTail count i < ringsiz :=
    fun i hi => RoundRobin.table_lt (by decide) hi
  constructor
  · rintro ⟨name, hname, hinjective⟩ i hi j hj heq
    have hforced : ∀ k < 8, name k = RoundRobin.table 8 ringsiz tableTail count k := by
      intro k hk
      refine h.equipped.distinct _ (hname k hk).1 _ (hlt k hk) ?_
      rw [← (hname k hk).2, h.slot k hk]
    exact hinjective i hi j hj (by rw [hforced i hi, hforced j hj, heq])
  · intro hinjective
    exact ⟨RoundRobin.table 8 ringsiz tableTail count,
      fun i hi => ⟨hlt i hi, h.slot i hi⟩, hinjective⟩

/-- From outside the first eight buffers the slots stay different for ever. -/
theorem Rotating.distinct (h : Rotating stream board tableTail count)
    (houtside : count = 0 ∨ tableTail = 0 ∨ 8 ≤ tableTail) : NamesDistinctBuffers stream board := by
  rw [h.distinct_iff]
  intro i hi j hj heq
  rcases houtside with rfl | houtside
  · exact heq
  · exact RoundRobin.table_injective (by decide) houtside h.tail hi hj heq

/-- From inside the first eight buffers the first interrupt names one buffer twice. -/
theorem Rotating.not_distinct (h : Rotating stream board tableTail 1)
    (hinside : ¬ (tableTail = 0 ∨ 8 ≤ tableTail)) : ¬ NamesDistinctBuffers stream board := by
  rw [not_or, Nat.not_le] at hinside
  rw [h.distinct_iff]
  intro hinjective
  have hcollision := RoundRobin.table_one_collision (m := 8) (n := ringsiz) (by decide)
    (Nat.pos_of_ne_zero hinside.1) hinside.2
  exact hinside.1 (hinjective 0 (by decide) tableTail hinside.2 hcollision).symm

/-- A stream is fresh with its table filled at position zero. -/
theorem fresh_rotating {adapType : AdapterType} {number : Nat} {before : Board}
    (h : stream.Fresh adapType number before board) : Rotating stream board 0 0 := by
  refine ⟨h.equipped, by decide, h.idle, ?_, h.slot⟩
  rcases h.indexW with heq | heq <;> rw [heq] <;> exact ⟨by decide, rfl⟩

/-- An interrupt on a rotating stream exchanges the slot that is next. -/
theorem Rotating.handled (h : Rotating stream board tableTail count) (env : Environment) :
    Handled ((tableTail + count) % ringsiz) stream board
      ((evhandler stream).run (boardWorld env) board).1
      ((evhandler stream).run (boardWorld env) board).2 :=
  evhandler_handled env board h.idle h.equipped.ops h.equipped.below_mmu

/-- An interrupt is one write of the round-robin table. -/
theorem Rotating.interrupt (h : Rotating stream board tableTail count) (env : Environment) :
    Rotating ((evhandler stream).run (boardWorld env) board).1
      ((evhandler stream).run (boardWorld env) board).2 tableTail (count + 1) := by
  have hhandled := h.handled env
  have hturn : stream.turn = count % 8 :=
    turn_of_next_slot h.phase.next (Nat.mod_lt _ (by decide))
  refine ⟨h.equipped.transfer hhandled.hardware, h.tail, ?_, ?_, ?_⟩
  · have hposition : ((tableTail + count) % ringsiz + 1) % ringsiz =
        (tableTail + (count + 1)) % ringsiz := by
      rw [Nat.mod_add_mod, Nat.add_assoc]
    rw [← hposition]
    exact hhandled.idle
  · rw [hhandled.indexW]
    exact in_phase_next h.phase
  · intro i hi
    rw [hhandled.hardware.portId, hhandled.hardware.pt_phys, hhandled.exchanged.slot i hi, hturn,
      RoundRobin.table_succ]
    split
    next => rfl
    next => exact h.slot i hi

/-- A start with a running clock begins a new rotation where the ring stands. -/
theorem Rotating.refill (h : Rotating stream board tableTail count) {env : Environment}
    {stream' : Stream} {board' : Board} (hstarted : Started env stream board stream' board')
    (hclock : stream.Clockable env) (hbound : stream.indexW + 8 < 2 ^ 31) :
    Rotating stream' board' stream.ring.tail 0 := by
  have hidle := h.idle
  refine ⟨hstarted.equipped env board h.equipped, ?_, ?_, ?_, ?_⟩
  · rw [hidle.tail]
    exact hidle.bound
  · rw [hstarted.ring, hidle.tail, Nat.add_zero, Nat.mod_eq_of_lt hidle.bound]
    exact hidle
  · rw [hstarted.indexW, if_pos hclock]
    exact in_phase_fill h.phase hbound
  · intro i hi
    rw [hstarted.hardware.portId, hstarted.hardware.pt_phys]
    exact (hstarted.slot i hi).trans (if_pos hclock)

/-- A start without a clock leaves the rotation alone. -/
theorem Rotating.keep (h : Rotating stream board tableTail count) {env : Environment}
    {stream' : Stream} {board' : Board} (hstarted : Started env stream board stream' board')
    (hclock : ¬ stream.Clockable env) : Rotating stream' board' tableTail count := by
  refine ⟨hstarted.equipped env board h.equipped, h.tail, hstarted.ring ▸ h.idle, ?_, ?_⟩
  · rw [hstarted.indexW, if_neg hclock]
    exact h.phase
  · intro i hi
    rw [hstarted.hardware.portId, hstarted.hardware.pt_phys]
    exact (hstarted.slot i hi).trans ((if_neg hclock).trans (h.slot i hi))

/-- The flag of the clock and the records of the board do not matter to the rotation. -/
theorem Rotating.unclocked (h : Rotating stream board tableTail count)
    (calls : List (Routine × Nat)) :
    Rotating stream.unclocked { board with calls := calls } tableTail count :=
  ⟨⟨h.equipped.port, h.equipped.below, h.equipped.ops, h.equipped.length, h.equipped.offset,
    h.equipped.nonzero, h.equipped.distinct⟩, h.tail, h.idle, h.phase, h.slot⟩

/-! ## Every event keeps the rotation -/

/-- What a start leaves of the adapter and the board. -/
theorem Rotation.step_start (env : Environment) {rotation : Rotation}
    (hfrontend : rotation.dvb.frontend = true) :
    rotation.step (.startFeed env) =
      let started := (startFeedDma { rotation.dvb with feeds := rotation.dvb.feeds + 1 }).run
        (boardWorld env) rotation.board
      ⟨started.1, started.2, rotation.dvb.tableTail env rotation.tableTail⟩ := by
  simp only [step, start_feed_run env rotation.dvb rotation.board hfrontend]

/-- What a stop leaves. -/
theorem Rotation.step_stop (env : Environment) {rotation : Rotation}
    (hfrontend : rotation.dvb.frontend = true) :
    rotation.step (.stopFeed env) =
      let stopped := (stopFeedDma { rotation.dvb with feeds := rotation.dvb.feeds - 1 }).run
        (boardWorld env) rotation.board
      ⟨stopped.1, stopped.2, rotation.tableTail⟩ := by
  simp only [step, stop_feed_run env rotation.dvb rotation.board hfrontend]

/-- What an interrupt leaves. -/
theorem Rotation.step_interrupt (env : Environment) {rotation : Rotation} {stream : Stream}
    (hstream : rotation.dvb.stream = some stream) :
    rotation.step (.interrupt env) =
      let handled := (evhandler stream).run (boardWorld env) rotation.board
      ⟨{ rotation.dvb with stream := some handled.1 }, handled.2, rotation.tableTail⟩ := by
  simp only [step, adapter_evhandler_run env rotation.board hstream]

/-- The adapter is in rotation, and has not taken an interrupt since a bad start. -/
structure Rotation.Inv (rotation : Rotation) : Prop where
  frontend : rotation.dvb.frontend = true
  rotating : ∃ stream count, rotation.dvb.stream = some stream ∧
    Rotating stream rotation.board rotation.tableTail count ∧
    (count = 0 ∨ rotation.tableTail = 0 ∨ 8 ≤ rotation.tableTail)

/-- The invariant keeps the slots distinct. -/
theorem Rotation.Inv.distinct {rotation : Rotation} (h : rotation.Inv) : rotation.Distinct := by
  obtain ⟨stream, count, hstream, hrotating, houtside⟩ := h.rotating
  intro found hfound
  have hsame : stream = found := Option.some.inj (hstream.symm.trans hfound)
  exact hsame ▸ hrotating.distinct houtside

/-- A start keeps the invariant. -/
theorem Rotation.Inv.startFeed {rotation : Rotation} (h : rotation.Inv) (env : Environment)
    (hbound : (TsEvent.startFeed env).NoOverflow rotation) :
    (rotation.step (.startFeed env)).Inv := by
  obtain ⟨stream, count, hstream, hrotating, houtside⟩ := h.rotating
  rw [Rotation.step_start env h.frontend]
  by_cases hfirst : rotation.dvb.feeds = 0
  · have hone : rotation.dvb.feeds + 1 = 1 := by
      rw [hfirst]
      rfl
    rw [start_feed_dma_first env _ _ hone]
    obtain ⟨stream', hvalue, hstarted⟩ := dma_start_started env
      { rotation.dvb with feeds := rotation.dvb.feeds + 1 } rotation.board hstream
      hrotating.equipped
    refine ⟨?_, stream', ?_⟩
    · show ((dmaStart _).run _ _).1.2.frontend = true
      rw [hvalue]
      exact h.frontend
    · have htail : rotation.dvb.tableTail env rotation.tableTail =
          if stream.Clockable env then stream.ring.tail else rotation.tableTail := by
        unfold Dvb.tableTail
        simp only [hstream, hfirst, hrotating.equipped.port, true_and, and_true]
      show ∃ count, ((dmaStart _).run _ _).1.2.stream = some stream' ∧
        Rotating stream' ((dmaStart _).run _ _).2 (rotation.dvb.tableTail env _) count ∧ _
      rw [hvalue, htail]
      by_cases hclock : stream.Clockable env
      · rw [if_pos hclock]
        exact ⟨0, rfl, hrotating.refill hstarted hclock (hbound stream hstream), Or.inl rfl⟩
      · rw [if_neg hclock]
        exact ⟨count, rfl, hrotating.keep hstarted hclock, houtside⟩
  · have hfurther : rotation.dvb.feeds + 1 ≠ 1 := by
      intro heq
      exact hfirst (by simpa using heq)
    have htail : rotation.dvb.tableTail env rotation.tableTail = rotation.tableTail := by
      unfold Dvb.tableTail
      simp only [hstream, hfirst, false_and, if_false]
    rw [start_feed_dma_further env _ _ hfurther, htail]
    exact ⟨h.frontend, stream, count, hstream, hrotating, houtside⟩

/-- So does a stop. -/
theorem Rotation.Inv.stopFeed {rotation : Rotation} (h : rotation.Inv) (env : Environment) :
    (rotation.step (.stopFeed env)).Inv := by
  obtain ⟨stream, count, hstream, hrotating, houtside⟩ := h.rotating
  rw [Rotation.step_stop env h.frontend, stop_feed_dma_run]
  split
  next =>
      refine ⟨h.frontend, stream.unclocked, count, ?_, hrotating.unclocked _, houtside⟩
      show Option.map _ rotation.dvb.stream = _
      rw [hstream]
      simp [hrotating.equipped.ops]
  next => exact ⟨h.frontend, stream, count, hstream, hrotating, houtside⟩

/-- So does an interrupt whose tail is outside the table. -/
theorem Rotation.Inv.interrupt {rotation : Rotation} (h : rotation.Inv) (env : Environment)
    (houtside : (TsEvent.interrupt env).TailOutside rotation) :
    (rotation.step (.interrupt env)).Inv := by
  obtain ⟨stream, count, hstream, hrotating, -⟩ := h.rotating
  rw [Rotation.step_interrupt env hstream]
  exact ⟨h.frontend, _, count + 1, rfl, hrotating.interrupt env, Or.inr houtside⟩

/-- An interrupt after a bad start names a buffer twice. -/
theorem Rotation.Inv.interrupt_inside {rotation : Rotation} (h : rotation.Inv)
    (env : Environment) (hinside : ¬ (TsEvent.interrupt env).TailOutside rotation) :
    ¬ (rotation.step (.interrupt env)).Distinct := by
  obtain ⟨stream, count, hstream, hrotating, houtside⟩ := h.rotating
  have hzero : count = 0 := houtside.resolve_right hinside
  subst hzero
  rw [Rotation.step_interrupt env hstream]
  exact fun hdistinct => (hrotating.interrupt env).not_distinct hinside (hdistinct _ rfl)

/-- The exact condition, from any state in rotation. -/
theorem Rotation.Inv.always_distinct_iff {rotation : Rotation} (h : rotation.Inv)
    {events : List TsEvent} (hvalid : Each Rotation.step TsEvent.NoOverflow rotation events) :
    Always Rotation.step Rotation.Distinct rotation events ↔
      Each Rotation.step TsEvent.TailOutside rotation events := by
  refine always_iff_each h (fun _ hinv => hinv.distinct) ?_ ?_ hvalid
  · intro state event hinv hbound houtside
    cases event with
    | startFeed env => exact hinv.startFeed env hbound
    | stopFeed env => exact hinv.stopFeed env
    | interrupt env => exact hinv.interrupt env houtside
  · intro state event hinv _ hinside
    cases event with
    | startFeed | stopFeed => exact absurd trivial hinside
    | interrupt env => exact hinv.interrupt_inside env hinside

/-- A stream that was opened satisfies it. -/
theorem Rotation.opened_inv {env : Environment} {config : TsConfig} {adapType : AdapterType}
    {count pages : Nat} {before : Board} {stream : Stream} {board : Board}
    (hinit : (streamInit config .digitalCapture adapType count pages).run (boardWorld env) before =
      (some stream, board)) (adapter : Nat) : (opened adapter (some stream, board)).Inv :=
  ⟨rfl, stream, 0, rfl, fresh_rotating (stream_init_fresh env hinit), Or.inl rfl⟩

/-- Over every run of starts, stops and interrupts from an initialised stream, as long as
`index_w` does not overflow, the eight slots always name different buffers if and only if
every interrupt comes while the slot table dates from a ring whose tail was at zero or behind
the first eight buffers. -/
theorem slots_distinct_iff {env : Environment} {config : TsConfig} {adapType : AdapterType}
    {count pages : Nat} {before : Board} {stream : Stream} {board : Board}
    (hinit : (streamInit config .digitalCapture adapType count pages).run (boardWorld env) before =
      (some stream, board)) (adapter : Nat) (events : List TsEvent)
    (hvalid : Each Rotation.step TsEvent.NoOverflow (.opened adapter (some stream, board)) events) :
    Always Rotation.step Rotation.Distinct (.opened adapter (some stream, board)) events ↔
      Each Rotation.step TsEvent.TailOutside (.opened adapter (some stream, board)) events :=
  (Rotation.opened_inv hinit adapter).always_distinct_iff hvalid

/-- One start and one interrupt on an initialised stream. -/
theorem slots_distinct_first_interrupt :
    ∃ stream, plainInit = (some stream, plainInit.2) ∧
      (Always Rotation.step Rotation.Distinct (.opened 0 (some stream, plainInit.2))
          [.startFeed .plain, .interrupt .plain] ↔
        Each Rotation.step TsEvent.TailOutside (.opened 0 (some stream, plainInit.2))
          [.startFeed .plain, .interrupt .plain]) := by
  obtain ⟨stream, hinit⟩ := plain_init
  refine ⟨stream, hinit, slots_distinct_iff hinit 0 _ ⟨?_, trivial, trivial⟩⟩
  intro found hfound
  have hsame : stream = found := Option.some.inj hfound
  rw [← hsame]
  rcases (plain_init_fresh hinit).indexW with heq | heq <;> rw [heq] <;> decide

/-- A start, three interrupts, a stop, another start and one more interrupt. -/
def restartAfterThree : List TsEvent :=
  [.startFeed .plain, .interrupt .plain, .interrupt .plain, .interrupt .plain, .stopFeed .plain,
    .startFeed .plain, .interrupt .plain]

/-- A small index does not overflow. -/
theorem no_overflow_of_index {rotation : Rotation} {env : Environment} (indexW : Int)
    (hindex : rotation.dvb.stream.map Stream.indexW = some indexW) (hbound : indexW + 8 < 2 ^ 31) :
    (TsEvent.startFeed env).NoOverflow rotation := by
  intro stream hstream
  rw [hstream] at hindex
  have hsame : stream.indexW = indexW := Option.some.inj hindex
  rw [hsame]
  exact hbound

/-- The restart fills the table while the tail of the ring is three, and the interrupt after
it puts buffer three, which slot three holds, into slot zero as well. -/
theorem restart_names_a_buffer_twice :
    Each Rotation.step TsEvent.NoOverflow (.opened 0 plainInit) restartAfterThree ∧
      ¬ Always Rotation.step Rotation.Distinct (.opened 0 plainInit) restartAfterThree := by
  obtain ⟨stream, hinit⟩ := plain_init
  have hinv : (Rotation.opened 0 plainInit).Inv := by
    rw [hinit]
    exact Rotation.opened_inv hinit 0
  have hvalid : Each Rotation.step TsEvent.NoOverflow (.opened 0 plainInit) restartAfterThree := by
    refine ⟨no_overflow_of_index 16 ?_ (by decide), trivial, trivial, trivial, trivial,
      no_overflow_of_index 3 ?_ (by decide), trivial, trivial⟩
    · decide +kernel
    · decide +kernel
  refine ⟨hvalid, ?_⟩
  rw [hinv.always_distinct_iff hvalid]
  intro houtside
  have htail :
      ((restartAfterThree.take 6).foldl Rotation.step (.opened 0 plainInit)).tableTail = 3 := by
    decide +kernel
  have hlast : (TsEvent.interrupt .plain).TailOutside
      ((restartAfterThree.take 6).foldl Rotation.step (.opened 0 plainInit)) :=
    houtside.2.2.2.2.2.2.1
  unfold TsEvent.TailOutside at hlast
  rw [htail] at hlast
  exact absurd hlast (by decide)

end Saa7231
