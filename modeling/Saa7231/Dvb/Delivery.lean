import Saa7231.Dvb.SlotRotation

/-!
# Which fills reach the demux

The hardware fills the slots in turn and raises one interrupt after each fill. The handler
delivers the buffer that it has just put into the slot table, not the one that was filled: up
to the eighth interrupt these are the same, the ninth delivers a buffer that no slot has held
yet (`deliveries_in_order_iff`).
-/

namespace Saa7231

open Interaction Bus

/-- An adapter with the memory behind its buffers: for each page table the number of the fill
that the buffer holds since it was last handed over. -/
structure Reception where
  dvb : Dvb
  board : Board
  memory : BitVec 64 → Option Nat
  fills : Nat
  /-- What the demux was given, the earliest first. -/
  handed : List (Option Nat)

/-- Hands a buffer over. -/
def Reception.handOver (reception : Reception) (page : BitVec 64) : Reception :=
  { reception with
    memory := Function.update reception.memory page none
    handed := reception.handed ++ [reception.memory page] }

/-- The hardware fills the next slot in turn. -/
def Reception.fill (reception : Reception) (stream : Stream) : Reception :=
  { reception with
    memory := Function.update reception.memory
      (reception.board.slot (dmach stream.portId) (reception.fills % 8)) (some reception.fills)
    fills := reception.fills + 1 }

/-- One fill and the interrupt after it: everything the handler gives to the demux is handed
over. -/
def Reception.step (reception : Reception) (env : Environment) : Reception :=
  match reception.dvb.stream with
  | none => reception
  | some stream =>
      let result := (adapterEvhandler reception.dvb).run (boardWorld env) reception.board
      let fresh := result.2.delivered.take
        (result.2.delivered.length - reception.board.delivered.length)
      (fresh.reverse.map stream.ring.ptPhys).foldl handOver
        { reception.fill stream with dvb := result.1, board := result.2 }

/-- An initialised adapter after the start of its first feed. -/
def Reception.started (adapter : Nat) (init : Option Stream × Board) (env : Environment) :
    Reception :=
  let result := (startFeed ⟨adapter, 47 + adapter, true, 0, init.1⟩).run (boardWorld env) init.2
  ⟨result.1.2, result.2, fun _ => none, 0, []⟩

/-- Every buffer that was handed over had been filled, and the fills came in order. -/
def Reception.InOrder (reception : Reception) : Prop :=
  ∃ fills : List Nat, reception.handed = fills.map some ∧ fills.Pairwise (· < ·)

/-! ## One fill and one interrupt -/

/-- A step of a rotating stream hands over the buffer at the position of the ring. -/
theorem Reception.step_rotating {reception : Reception} {stream : Stream} {tableTail count : Nat}
    (hstream : reception.dvb.stream = some stream)
    (h : Rotating stream reception.board tableTail count) (env : Environment) :
    reception.step env =
      let handled := (evhandler stream).run (boardWorld env) reception.board
      ({ reception.fill stream with
          dvb := { reception.dvb with stream := some handled.1 },
          board := handled.2 }).handOver
        (stream.ring.ptPhys ((tableTail + count) % ringsiz)) := by
  have hdelivered := (h.handled env).delivered
  unfold Reception.step
  simp only [hstream, adapter_evhandler_run env reception.board hstream, hdelivered,
    List.length_cons, Nat.add_sub_cancel_left, List.take_succ_cons, List.take_zero,
    List.reverse_singleton, List.map_cons, List.map_nil, List.foldl_cons, List.foldl_nil]

/-- The first interrupts after the first start: every fill so far was handed over. -/
structure Receiving (reception : Reception) (count : Nat) : Prop where
  rotating : ∃ stream, reception.dvb.stream = some stream ∧
    Rotating stream reception.board 0 count ∧
    ∀ i < ringsiz, reception.memory (stream.ring.ptPhys i) = none
  fills : reception.fills = count
  handed : reception.handed = (List.range count).map some

theorem Receiving.in_order {reception : Reception} {count : Nat} (h : Receiving reception count) :
    reception.InOrder :=
  ⟨List.range count, h.handed, List.pairwise_lt_range⟩

/-- The memory after a fill of the slot in turn and the hand-over of a buffer. -/
theorem Receiving.step_memory {reception : Reception} {count : Nat} {stream : Stream}
    (h : Receiving reception count) (hcount : count ≤ 8)
    (hrotating : Rotating stream reception.board 0 count) :
    (reception.fill stream).memory = Function.update reception.memory
      (stream.ring.ptPhys (count % 8)) (some count) := by
  have hslot := hrotating.slot (count % 8) (Nat.mod_lt _ (by decide))
  rw [RoundRobin.table_turn (by decide)] at hslot
  have hturn : (if count < 8 then count else (0 + (count - 8)) % ringsiz) = count % 8 := by
    unfold ringsiz
    split <;> omega
  rw [hturn] at hslot
  unfold Reception.fill
  rw [h.fills, hslot]

/-- Up to the eighth interrupt the buffer that was filled is the one handed over. -/
theorem Receiving.step {reception : Reception} {count : Nat} (h : Receiving reception count)
    (hcount : count < 8) (env : Environment) : Receiving (reception.step env) (count + 1) := by
  obtain ⟨stream, hstream, hrotating, hmemory⟩ := h.rotating
  have hfill := h.step_memory (Nat.le_of_lt hcount) hrotating
  have hslot : count % 8 = count := Nat.mod_eq_of_lt hcount
  have hposition : (0 + count) % ringsiz = count := by
    rw [Nat.zero_add]
    exact Nat.mod_eq_of_lt (Nat.lt_trans hcount (by decide))
  rw [hslot] at hfill
  rw [Reception.step_rotating hstream hrotating env, hposition]
  have hsame := (hrotating.handled env).hardware
  refine ⟨⟨_, rfl, hrotating.interrupt env, ?_⟩, ?_, ?_⟩
  · intro i hi
    show Function.update (reception.fill stream).memory (stream.ring.ptPhys count) none _ = none
    rw [hfill, Function.update_idem, hsame.pt_phys]
    by_cases heq : i = count
    · rw [heq, Function.update_self]
    · have hne : stream.ring.ptPhys i ≠ stream.ring.ptPhys count := fun hpages =>
        heq (hrotating.equipped.distinct i hi count (Nat.lt_trans hcount (by decide)) hpages)
      rw [Function.update_of_ne hne]
      exact hmemory i hi
  · show reception.fills + 1 = count + 1
    rw [h.fills]
  · show reception.handed ++ [(reception.fill stream).memory (stream.ring.ptPhys count)] = _
    rw [hfill, Function.update_self, h.handed, List.range_succ, List.map_append]
    rfl

/-- The ninth interrupt hands over a buffer that was never filled. -/
theorem Receiving.ninth {reception : Reception} (h : Receiving reception 8) (env : Environment) :
    none ∈ (reception.step env).handed := by
  obtain ⟨stream, hstream, hrotating, hmemory⟩ := h.rotating
  have hfill := h.step_memory (le_refl 8) hrotating
  rw [Reception.step_rotating hstream hrotating env]
  show none ∈ reception.handed ++ [(reception.fill stream).memory (stream.ring.ptPhys 8)]
  have hne : stream.ring.ptPhys 8 ≠ stream.ring.ptPhys 0 := fun hpages =>
    absurd (hrotating.equipped.distinct 8 (by decide) 0 (by decide) hpages) (by decide)
  rw [hfill, Function.update_of_ne hne, hmemory 8 (by decide)]
  simp

/-! ## Runs of interrupts -/

/-- What was handed over stays handed over. -/
theorem Reception.handed_step (reception : Reception) (env : Environment) {fill : Option Nat}
    (hmem : fill ∈ reception.handed) : fill ∈ (reception.step env).handed := by
  have hfold : ∀ (pages : List (BitVec 64)) (reception : Reception),
      fill ∈ reception.handed → fill ∈ (pages.foldl handOver reception).handed := by
    intro pages
    induction pages with
    | nil => exact fun _ h => h
    | cons page rest ih => exact fun _ h => ih _ (List.mem_append_left _ h)
  unfold Reception.step
  split
  next => exact hmem
  next => exact hfold _ _ hmem

theorem Reception.handed_run (envs : List Environment) {reception : Reception} {fill : Option Nat}
    (hmem : fill ∈ reception.handed) : fill ∈ (envs.foldl step reception).handed := by
  induction envs generalizing reception with
  | nil => exact hmem
  | cons env rest ih => exact ih (reception.handed_step env hmem)

theorem Receiving.run {reception : Reception} {count : Nat} (h : Receiving reception count)
    (envs : List Environment) (hcount : count + envs.length ≤ 8) :
    Receiving (envs.foldl Reception.step reception) (count + envs.length) := by
  induction envs generalizing reception count with
  | nil => exact h
  | cons env rest ih =>
      rw [List.length_cons] at hcount ⊢
      have hnext := ih (h.step (by omega) env) (by omega)
      rwa [Nat.add_assoc, Nat.add_comm 1] at hnext

/-- A buffer that was never filled is not in order with anything. -/
theorem Reception.not_in_order {reception : Reception} (hmem : none ∈ reception.handed) :
    ¬ reception.InOrder := by
  rintro ⟨fills, hfills, -⟩
  rw [hfills] at hmem
  obtain ⟨fill, -, hfill⟩ := List.mem_map.mp hmem
  exact Option.some_ne_none _ hfill

theorem Receiving.in_order_iff {reception : Reception} (h : Receiving reception 0)
    (envs : List Environment) :
    (envs.foldl Reception.step reception).InOrder ↔ envs.length ≤ 8 := by
  constructor
  · intro hinOrder
    by_contra hmany
    obtain ⟨first, ninth, rest, rfl, hlength⟩ : ∃ first ninth rest,
        envs = first ++ ninth :: rest ∧ first.length = 8 := by
      refine ⟨envs.take 8, envs[8], envs.drop 9, ?_, ?_⟩
      · rw [← List.drop_eq_getElem_cons, List.take_append_drop]
      · rw [List.length_take]
        omega
    have height : Receiving (first.foldl Reception.step reception) 8 := by
      have hrun := h.run first (by omega)
      rwa [Nat.zero_add, hlength] at hrun
    rw [List.foldl_append, List.foldl_cons] at hinOrder
    exact Reception.not_in_order (Reception.handed_run rest (height.ninth ninth)) hinOrder
  · intro hfew
    exact (h.run envs (by omega)).in_order

/-- The first start leaves the slots with the first eight buffers and the ring at zero. -/
theorem Receiving.started {env : Environment} {config : TsConfig} {adapType : AdapterType}
    {count pages : Nat} {before : Board} {stream : Stream} {board : Board}
    (hinit : (streamInit config .digitalCapture adapType count pages).run (boardWorld env) before =
      (some stream, board)) (adapter : Nat) (envStart : Environment) :
    Receiving (.started adapter (some stream, board) envStart) 0 := by
  have hfresh := stream_init_fresh env hinit
  have hrotating := fresh_rotating hfresh
  have hbound : stream.indexW + 8 < 2 ^ 31 := by
    rcases hfresh.indexW with heq | heq <;> rw [heq] <;> decide
  unfold Reception.started
  rw [start_feed_run _ _ _ rfl, start_feed_dma_first envStart _ _ rfl]
  obtain ⟨stream', hvalue, hstarted⟩ := dma_start_started envStart
    ⟨adapter, 47 + adapter, true, 0 + 1, some stream⟩ board rfl hfresh.equipped
  refine ⟨⟨stream', ?_, ?_, fun _ _ => rfl⟩, rfl, rfl⟩
  · show ((dmaStart _).run _ _).1.2.stream = _
    rw [hvalue]
  · show Rotating stream' ((dmaStart _).run _ _).2 0 0
    by_cases hclock : stream.Clockable envStart
    · have hrefill := hrotating.refill hstarted hclock hbound
      rwa [hfresh.idle.tail] at hrefill
    · exact hrotating.keep hstarted hclock

/-- After the first start of an initialised stream, the demux is given the fills in order, and
no buffer without a fill, if and only if there are at most eight interrupts. -/
theorem deliveries_in_order_iff {env : Environment} {config : TsConfig} {adapType : AdapterType}
    {count pages : Nat} {before : Board} {stream : Stream} {board : Board}
    (hinit : (streamInit config .digitalCapture adapType count pages).run (boardWorld env) before =
      (some stream, board)) (adapter : Nat) (envStart : Environment)
    (interrupts : List Environment) :
    (interrupts.foldl Reception.step
        (.started adapter (some stream, board) envStart)).InOrder ↔ interrupts.length ≤ 8 :=
  (Receiving.started hinit adapter envStart).in_order_iff interrupts

/-- One interrupt on an initialised and started stream. -/
theorem first_delivery_in_order :
    ∃ stream, plainInit = (some stream, plainInit.2) ∧
      ((([.plain] : List Environment).foldl Reception.step
        (.started 0 (some stream, plainInit.2) .plain)).InOrder ↔ 1 ≤ 8) := by
  obtain ⟨stream, hinit⟩ := plain_init
  exact ⟨stream, hinit, deliveries_in_order_iff hinit 0 .plain [.plain]⟩

/-- The ninth interrupt delivers a buffer that the hardware never wrote. -/
theorem ninth_delivery_not_filled :
    ∃ stream, plainInit = (some stream, plainInit.2) ∧
      ¬ ((List.replicate 9 Environment.plain).foldl Reception.step
        (.started 0 (some stream, plainInit.2) .plain)).InOrder := by
  obtain ⟨stream, hinit⟩ := plain_init
  refine ⟨stream, hinit, ?_⟩
  rw [(Receiving.started hinit 0 .plain).in_order_iff]
  decide

end Saa7231
