import Saa7231.Dvb.SlotOwnership
import Saa7231.Dvb.SlotRotation

/-!
# Slots and buffers over acquires and interrupts

Three cursors move on their own: the slot index, which every acquire pushes on by eight and every
interrupt wraps only when it needs it, and the two of the ring. `events_in_turn` gives their closed
form: an interrupt fills the slot whose number is that of the interrupts since the last acquire,
modulo eight, with the buffer whose number is that of all interrupts, modulo sixteen.
-/

namespace Saa7231

open Interaction Bus

/-! ## Histories -/

/-- A stream with what happened to it since it was initialised. An acquire that cannot activate the
clock of the stream does nothing and is not counted. -/
structure History where
  drive : Drive
  /-- The interrupts since the last acquire. -/
  turns : Nat
  /-- The interrupts since the ring was initialised. -/
  events : Nat
  /-- The acquires since the last interrupt. -/
  acquires : Nat

namespace History

def start (drive : Drive) : History := ⟨drive, 0, 0, 0⟩

def step (history : History) : DriveEvent → History
  | .acquire env =>
      if history.drive.stream.Clockable env then
        ⟨history.drive.step (.acquire env), 0, history.events, history.acquires + 1⟩
      else { history with drive := history.drive.step (.acquire env) }
  | .interrupt env =>
      ⟨history.drive.step (.interrupt env), history.turns + 1, history.events + 1, 0⟩

/-- The ring is empty. -/
def RingEmpty (history : History) : Prop :=
  history.drive.stream.ring.count = 0 ∧
    history.drive.stream.ring.head = history.drive.stream.ring.tail

end History

/-- Fewer than `2 ^ 27` acquires come between two interrupts. -/
def DriveEvent.Timely (history : History) : DriveEvent → Prop
  | .acquire _ => True
  | .interrupt _ => history.acquires < 2 ^ 27

/-- The handler calls `saa7231_ts2dtl_set_buffer` with a slot and a buffer, once. -/
def Stream.CallsSetBuffer (stream : Stream) (slot buffer : Nat) : Prop :=
  evhandlerFill stream = do
    let filled := { stream with ring := (ringWrite stream.ring).2, indexW := slot }
    let _ret ← ts2dtlSetBuffer filled (BitVec.ofNat 32 slot) buffer
    return { filled with indexW := slot + 1 }

/-- An interrupt calls `set_buffer` with the slot and the buffer, so that the slot names the buffer
and the others are as before, and delivers the same buffer. -/
structure Drive.Takes (drive : Drive) (env : Environment) (slot buffer : Nat) : Prop where
  call :
    ((evhandlerLook drive.stream).run (boardWorld env) drive.board).1.CallsSetBuffer slot buffer
  table : ∀ i < 8, (drive.step (.interrupt env)).board.slot (dmach drive.stream.portId) i =
    if i = slot then drive.stream.ring.ptPhys buffer
    else drive.board.slot (dmach drive.stream.portId) i
  delivered : (drive.step (.interrupt env)).board.delivered = buffer :: drive.board.delivered

/-- The interrupt takes its turn. -/
def DriveEvent.InTurn (history : History) : DriveEvent → Prop
  | .acquire _ => True
  | .interrupt env => history.drive.Takes env (history.turns % 8) (history.events % ringsiz)

theorem Stream.calls_set_buffer {stream : Stream} {slot position : Nat}
    (hidle : stream.ring.Idle position) (hops : stream.ops = .ts2dtl)
    (hslot : nextSlot stream.indexW = slot) (hbound : slot < 8) :
    stream.CallsSetBuffer slot position := by
  have hnext : ((slot : Int) + 1).bmod (2 ^ 32) = slot + 1 :=
    Int.bmod_eq_of_le (by omega) (by omega)
  unfold Stream.CallsSetBuffer evhandlerFill
  simp only [hidle.not_full, hops, hidle.write_fst, hslot, hnext, BitVec.ofInt_natCast,
    Bool.false_eq_true, if_false]

/-! ## The cursors -/

/-- The ring is idle at the number of the interrupts, and the slot index is in phase as long as it
does not overflow. -/
structure History.Kept (history : History) : Prop where
  ready : history.drive.Ready
  idle : history.drive.stream.ring.Idle (history.events % ringsiz)
  phase : history.acquires < 2 ^ 27 →
    InPhase history.drive.stream.indexW history.turns ∧
      history.drive.stream.indexW ≤ 16 + 8 * history.acquires

namespace History.Kept

variable {history : History}

theorem ring_empty (h : history.Kept) : history.RingEmpty :=
  ⟨h.idle.count, h.idle.head.trans h.idle.tail.symm⟩

theorem acquired_stream (h : history.Kept) (env : Environment) :
    (history.drive.step (.acquire env)).stream = history.drive.stream.acquired env := by
  have hvalid : history.drive.stream.params.valid = true := by
    rw [h.ready.params]
    exact ts_params_valid
  have htype : history.drive.stream.params.type = .ts := by
    rw [h.ready.params]
    rfl
  show ((ts2dtlAcquire _).run _ _).1.2 = _
  rw [acquire_value env history.drive.board hvalid htype h.ready.equipped.eight_buffers]

/-- An acquire pushes the slot index on by eight. -/
theorem acquired_phase (h : history.Kept) {env : Environment}
    (hclock : history.drive.stream.Clockable env) (hbound : history.acquires + 1 < 2 ^ 27) :
    InPhase (history.drive.stream.acquired env).indexW 0 ∧
      (history.drive.stream.acquired env).indexW ≤
        16 + 8 * ((history.acquires + 1 : Nat) : Int) := by
  obtain ⟨hphase, hlimit⟩ := h.phase (by omega)
  have hnonneg := hphase.nonneg
  have hsame : (history.drive.stream.indexW + 8).bmod (2 ^ 32) =
      history.drive.stream.indexW + 8 := Int.bmod_eq_of_le (by omega) (by omega)
  have hpush := in_phase_fill hphase (by omega)
  rw [acquired_index_w env h.ready.equipped.port, if_pos hclock]
  refine ⟨hpush, ?_⟩
  rw [hsame]
  omega

/-- An acquire changes the slot index only. -/
theorem acquire (h : history.Kept) (env : Environment) : (history.step (.acquire env)).Kept := by
  have hstream := h.acquired_stream env
  have hready := h.ready.step (.acquire env)
  have hidle : (history.drive.step (.acquire env)).stream.ring.Idle (history.events % ringsiz) := by
    rw [hstream, acquired_ring]
    exact h.idle
  by_cases hclock : history.drive.stream.Clockable env
  · have hstep : history.step (.acquire env) =
        ⟨history.drive.step (.acquire env), 0, history.events, history.acquires + 1⟩ :=
      if_pos hclock
    rw [hstep]
    refine ⟨hready, hidle, fun hbound => ?_⟩
    dsimp only
    rw [hstream]
    exact h.acquired_phase hclock hbound
  · have hstep : history.step (.acquire env) =
        { history with drive := history.drive.step (.acquire env) } := if_neg hclock
    rw [hstep]
    refine ⟨hready, hidle, fun hbound => ?_⟩
    dsimp only
    rw [hstream, acquired_index_w env h.ready.equipped.port, if_neg hclock]
    exact h.phase hbound

theorem handled (h : history.Kept) (env : Environment) :
    Handled (history.events % ringsiz) history.drive.stream history.drive.board
      (history.drive.step (.interrupt env)).stream (history.drive.step (.interrupt env)).board :=
  evhandler_handled env history.drive.board h.idle h.ready.equipped.ops
    h.ready.equipped.below_mmu

/-- An interrupt moves the ring and the slot index one position on. -/
theorem interrupt (h : history.Kept) (env : Environment)
    (htimely : (DriveEvent.interrupt env).Timely history) :
    (history.step (.interrupt env)).Kept := by
  have hhandled := h.handled env
  obtain ⟨hphase, -⟩ := h.phase htimely
  have hnext := in_phase_next hphase
  refine ⟨h.ready.step (.interrupt env), ?_, fun _ => ?_⟩
  · show (history.drive.step (.interrupt env)).stream.ring.Idle ((history.events + 1) % ringsiz)
    rw [← Nat.mod_add_mod]
    exact hhandled.idle
  · show InPhase (history.drive.step (.interrupt env)).stream.indexW (history.turns + 1) ∧
      (history.drive.step (.interrupt env)).stream.indexW ≤ 16 + 8 * ((0 : Nat) : Int)
    have hslot : history.turns % 8 < 8 := Nat.mod_lt _ (by omega)
    rw [hhandled.indexW]
    refine ⟨hnext, ?_⟩
    rw [hphase.next, Int.bmod_eq_of_le (by omega) (by omega)]
    omega

theorem step (h : history.Kept) (event : DriveEvent) (htimely : event.Timely history) :
    (history.step event).Kept := by
  cases event with
  | acquire env => exact h.acquire env
  | interrupt env => exact h.interrupt env htimely

/-- A timely interrupt takes its turn. -/
theorem in_turn (h : history.Kept) (event : DriveEvent) (htimely : event.Timely history) :
    event.InTurn history := by
  cases event with
  | acquire env => trivial
  | interrupt env =>
      have hhandled := h.handled env
      obtain ⟨hphase, -⟩ := h.phase htimely
      have hslot : history.turns % 8 < 8 := Nat.mod_lt _ (by omega)
      have hturn := turn_of_next_slot hphase.next hslot
      refine ⟨?_, fun i hi => ?_, hhandled.delivered⟩
      · obtain ⟨hhardware, hindexW, hring, -⟩ := (evhandler_look_yields history.drive.stream).run
          (boardWorld env) history.drive.board
        refine Stream.calls_set_buffer ?_ (hhardware.ops.trans h.ready.equipped.ops) ?_ hslot
        · rw [hring]
          exact h.idle
        · rw [hindexW]
          exact hphase.next
      · rw [hhandled.exchanged.slot i hi, hturn]

end History.Kept

theorem History.start_kept {env : Environment} {config : TsConfig} {adapType : AdapterType}
    {count pages : Nat} {before : Board} {stream : Stream} {board : Board}
    (hinit : (streamInit config .digitalCapture adapType count pages).run (boardWorld env) before =
      (some stream, board)) : (History.start ⟨stream, board⟩).Kept := by
  have hfresh := stream_init_fresh env hinit
  have hphase := (fresh_rotating hfresh).phase
  refine ⟨Drive.Ready.fresh hinit, hfresh.idle, fun _ => ⟨hphase, ?_⟩⟩
  show stream.indexW ≤ 16 + 8 * ((0 : Nat) : Int)
  rcases hfresh.indexW with heq | heq <;> omega

/-- For every history of acquires and interrupts of an initialised stream in which fewer than
`2 ^ 27` acquires come between two interrupts: the interrupt with the number `n` since the last
acquire calls `set_buffer` with slot `n % 8`, the buffer that it programs and the one that it
delivers both have the number of the interrupt modulo sixteen, and between the events the ring is
empty. -/
theorem events_in_turn {env : Environment} {config : TsConfig} {adapType : AdapterType}
    {count pages : Nat} {before : Board} {stream : Stream} {board : Board}
    (hinit : (streamInit config .digitalCapture adapType count pages).run (boardWorld env) before =
      (some stream, board)) (events : List DriveEvent)
    (htimely : Each History.step (fun history event => event.Timely history)
      (.start ⟨stream, board⟩) events) :
    Each History.step (fun history event => event.InTurn history) (.start ⟨stream, board⟩) events ∧
      Always History.step History.RingEmpty (.start ⟨stream, board⟩) events :=
  ⟨each_of_each (History.start_kept hinit) (fun _ event h => h.step event)
      (fun _ event h => h.in_turn event) htimely,
    always_of_each (History.start_kept hinit) (fun _ h => h.ring_empty)
      (fun _ event h => h.step event) htimely⟩

/-- One acquire and one interrupt on an initialised stream. -/
theorem events_in_turn_first_interrupt :
    ∃ stream, plainInit = (some stream, plainInit.2) ∧
      Each History.step (fun history event => event.InTurn history)
        (.start ⟨stream, plainInit.2⟩) [.acquire .plain, .interrupt .plain] ∧
      Always History.step History.RingEmpty (.start ⟨stream, plainInit.2⟩)
        [.acquire .plain, .interrupt .plain] := by
  obtain ⟨stream, hinit⟩ := plain_init
  refine ⟨stream, hinit, events_in_turn hinit _ ⟨trivial, ?_, trivial⟩⟩
  have hacquires : ((History.start ⟨stream, plainInit.2⟩).step (.acquire .plain)).acquires ≤ 1 := by
    unfold History.step
    dsimp only
    split
    next => exact Nat.le_refl 1
    next => exact Nat.zero_le 1
  exact Nat.lt_of_le_of_lt hacquires (by omega)

end Saa7231
