import Saa7231.Dvb.StartAddresses
import Saa7231.Interaction.Moments

/-!
# Who owns the buffer that is delivered

A buffer belongs to the hardware while one of the eight slots of the DMA channel names it.
The event handler delivers the buffer that it has put into a slot just before, so software
and hardware own it together. Only a refused slot number keeps the buffer out of the table
(`delivered_owned_iff`).
-/

namespace Saa7231

open Interaction Bus

/-- No slot of the stream's DMA channel names the buffer. -/
def Stream.Owned (stream : Stream) (board : Board) (buffer : Nat) : Prop :=
  ∀ i < 8, board.slot (dmach stream.portId) i ≠ stream.ring.ptPhys buffer

/-- A buffer that an operation hands to the demux is in no slot at that moment. -/
def Stream.DeliversOwned (stream : Stream) : BusOp BoardOp → Board → Prop
  | .extra (.swfilterPackets buffer _), board => stream.Owned board buffer
  | _, _ => True

/-- Everything the event hands to the demux is in no slot at that moment. -/
def DriveEvent.DeliversOwned (drive : Drive) : DriveEvent → Prop
  | .acquire env =>
      (ts2dtlAcquire drive.stream).Meets (boardWorld env) drive.stream.DeliversOwned drive.board
  | .interrupt env =>
      (evhandler drive.stream).Meets (boardWorld env) drive.stream.DeliversOwned drive.board

/-- The slot number of an interrupt is refused, and no slot names the buffer at the tail of
the ring. -/
def DriveEvent.Refused (drive : Drive) : DriveEvent → Prop
  | .acquire _ => True
  | .interrupt _ => 8 ≤ drive.stream.turn ∧ drive.stream.Owned drive.board drive.stream.ring.tail

/-- A stream between two events. -/
structure Drive.Ready (drive : Drive) : Prop where
  equipped : drive.stream.Equipped
  params : drive.stream.params = tsParams
  idle : ∃ position, drive.stream.ring.Idle position

/-- A C `int` gives a refused slot number only when it is negative. -/
theorem turn_refused_iff {stream : Stream} (hlow : -2 ^ 31 ≤ stream.indexW)
    (hhigh : stream.indexW < 2 ^ 31) : 8 ≤ stream.turn ↔ stream.indexW < 0 := by
  unfold Stream.turn nextSlot ts2dBuffers
  rw [BitVec.toNat_ofInt]
  split <;> omega

section Handler

variable {env : Environment} {stream : Stream} {board : Board}

/-- Operations that hand nothing to the demux. -/
theorem delivers_owned_of_only {α : Type} {A : Nat → Prop} {R : List Record}
    {program : BoardProgram α} (honly : program.Only (Touches A R)) (hR : Record.delivered ∉ R) :
    program.Meets (boardWorld env) stream.DeliversOwned board := by
  refine Program.meets_of_only honly fun op board hop => ?_
  cases op with
  | rd | wr | delay => trivial
  | extra op =>
      cases op with
      | swfilterPackets buffer packets => exact absurd (hop _ rfl) hR
      | _ => trivial

/-- After an exchange the written buffer is in no slot exactly when the exchange was refused
and it was in no slot before. -/
theorem Exchanged.owned_iff {turn position : Nat} {board' : Board}
    (h : Exchanged stream turn position board board') :
    stream.Owned board' position ↔ 8 ≤ turn ∧ stream.Owned board position := by
  constructor
  · intro howned
    -- A slot number that is not refused names the buffer itself.
    have hturn : 8 ≤ turn := by
      by_contra hinside
      rw [Nat.not_le] at hinside
      exact howned turn hinside ((h.slot turn hinside).trans (if_pos rfl))
    refine ⟨hturn, fun i hi => ?_⟩
    have hkept := h.slot i hi
    rw [if_neg (by omega)] at hkept
    exact hkept ▸ howned i hi
  · rintro ⟨hturn, howned⟩ i hi
    rw [h.slot i hi, if_neg (by omega)]
    exact howned i hi

/-- The event handler hands over one buffer, the one at the position of the ring, and the
slots do not change after that. -/
theorem evhandler_delivers_owned_iff {position : Nat} (hidle : stream.ring.Idle position)
    (hops : stream.ops = .ts2dtl) :
    (evhandler stream).Meets (boardWorld env) stream.DeliversOwned board ↔
      stream.Owned ((evhandler stream).run (boardWorld env) board).2 position := by
  obtain ⟨hhardware, -, hring, -⟩ := (evhandler_look_yields stream).run (boardWorld env) board
  have hlook : (evhandlerLook stream).Meets (boardWorld env) stream.DeliversOwned board :=
    delivers_owned_of_only (only_evhandler_look stream (R := [])) (by simp)
  -- Of the three parts only the last hands anything over, and it changes no register.
  unfold evhandler
  rw [Program.meets_bind, and_iff_right hlook, Program.meets_bind,
    and_iff_right (delivers_owned_of_only (only_evhandler_fill fun _ h => h) (by simp)),
    Program.run_bind, Program.run_bind]
  generalize (evhandlerLook stream).run (boardWorld env) board = looked at *
  have hidle' : looked.1.ring.Idle position := hring ▸ hidle
  have hfilled : ((evhandlerFill looked.1).run (boardWorld env) looked.2).1.ring =
      (ringWrite looked.1.ring).2 := by
    rw [evhandler_fill_run env looked.2 hidle' (hhardware.ops.trans hops)]
  generalize (evhandlerFill looked.1).run (boardWorld env) looked.2 = filled at *
  rw [evhandler_deliver_run env filled.2 hidle' hfilled]
  unfold evhandlerDeliver
  rw [hfilled, hidle'.write_not_empty, if_neg Bool.false_ne_true]
  show (swfilterPackets (ringRead (ringWrite looked.1.ring).2).1 348 >>= _).Meets _ _ _ ↔ _
  rw [hidle'.read_write_fst, Program.meets_bind, and_iff_left (Program.meets_pure _)]
  exact Program.meets_perform _

end Handler

/-! ## Runs -/

namespace Drive.Ready

variable {drive : Drive}

/-- Both events leave the stream ready for the next one. -/
theorem step (h : drive.Ready) (event : DriveEvent) : (drive.step event).Ready := by
  obtain ⟨position, hidle⟩ := h.idle
  cases event with
  | acquire env =>
      have hvalid : drive.stream.params.valid = true := by
        rw [h.params]
        exact ts_params_valid
      have htype : drive.stream.params.type = .ts := by
        rw [h.params]
        rfl
      have hsame : SameHardware drive.stream (drive.step (.acquire env)).stream :=
        acquire_yields.run (boardWorld env) drive.board
      refine ⟨h.equipped.transfer hsame, hsame.params.trans h.params, position, ?_⟩
      show ((ts2dtlAcquire _).run _ _).1.2.ring.Idle position
      rw [acquire_value env drive.board hvalid htype h.equipped.eight_buffers, acquired_ring]
      exact hidle
  | interrupt env =>
      have hhandled :=
        evhandler_handled env drive.board hidle h.equipped.ops h.equipped.below_mmu
      exact ⟨h.equipped.transfer hhandled.hardware, hhandled.hardware.params.trans h.params, _,
        hhandled.idle⟩

/-- An event delivers a buffer that it owns exactly when its slot number is refused and the
buffer is in no slot. -/
theorem delivers_owned_iff (h : drive.Ready) (event : DriveEvent) :
    event.DeliversOwned drive ↔ event.Refused drive := by
  obtain ⟨position, hidle⟩ := h.idle
  cases event with
  | acquire env =>
      refine iff_of_true ?_ trivial
      exact delivers_owned_of_only
        (only_acquire (Or.inl h.equipped.eight_buffers) fun _ hin => hin) (R := []) (by simp)
  | interrupt env =>
      have hhandled :=
        evhandler_handled env drive.board hidle h.equipped.ops h.equipped.below_mmu
      show (evhandler drive.stream).Meets _ _ _ ↔ _ ∧ _
      rw [evhandler_delivers_owned_iff hidle h.equipped.ops, hhandled.exchanged.owned_iff,
        hidle.tail]

theorem fresh {env : Environment} {config : TsConfig} {adapType : AdapterType}
    {count pages : Nat} {before : Board} {stream : Stream} {board : Board}
    (hinit : (streamInit config .digitalCapture adapType count pages).run (boardWorld env) before =
      (some stream, board)) : (Drive.mk stream board).Ready := by
  have hfresh := stream_init_fresh env hinit
  exact ⟨hfresh.equipped, hfresh.params, 0, hfresh.idle⟩

/-- The exact condition, from any ready stream. -/
theorem each_owned_iff (h : drive.Ready) (events : List DriveEvent) :
    Each Drive.step DriveEvent.DeliversOwned drive events ↔
      Each Drive.step DriveEvent.Refused drive events := by
  induction events generalizing drive with
  | nil => exact Iff.rfl
  | cons event rest ih => exact and_congr (h.delivers_owned_iff event) (ih (h.step event))

end Drive.Ready

/-- Over every run of acquires and interrupts from an initialised stream, every buffer is in no
slot at the moment in which it is handed to the demux if and only if the slot number of every
interrupt is refused and no slot names the buffer at the tail of the ring. -/
theorem delivered_owned_iff {env : Environment} {config : TsConfig} {adapType : AdapterType}
    {count pages : Nat} {before : Board} {stream : Stream} {board : Board}
    (hinit : (streamInit config .digitalCapture adapType count pages).run (boardWorld env) before =
      (some stream, board)) (events : List DriveEvent) :
    Each Drive.step DriveEvent.DeliversOwned ⟨stream, board⟩ events ↔
      Each Drive.step DriveEvent.Refused ⟨stream, board⟩ events :=
  (Drive.Ready.fresh hinit).each_owned_iff events

/-- One acquire and one interrupt on an initialised stream. -/
theorem delivered_owned_first_interrupt :
    ∃ stream, plainInit = (some stream, plainInit.2) ∧
      (Each Drive.step DriveEvent.DeliversOwned ⟨stream, plainInit.2⟩
          [.acquire .plain, .interrupt .plain] ↔
        Each Drive.step DriveEvent.Refused ⟨stream, plainInit.2⟩
          [.acquire .plain, .interrupt .plain]) := by
  obtain ⟨stream, hinit⟩ := plain_init
  exact ⟨stream, hinit, delivered_owned_iff hinit _⟩

/-- The first interrupt delivers buffer zero, which it has put into slot zero. -/
theorem first_delivery_not_owned :
    ¬ Each Drive.step DriveEvent.DeliversOwned plainDrive [.acquire .plain, .interrupt .plain] := by
  obtain ⟨stream, hinit⟩ := plain_init
  have hsome : plainInit.1 = some stream := by rw [hinit]
  have hready : plainDrive.Ready := by
    have hdrive : plainDrive = ⟨stream, plainInit.2⟩ := by
      unfold plainDrive
      simp only [hsome, Option.get_some]
    rw [hdrive]
    exact Drive.Ready.fresh hinit
  rw [hready.each_owned_iff]
  rintro ⟨-, ⟨hrefused, -⟩, -⟩
  have hturn : (plainDrive.step (.acquire .plain)).stream.turn = 0 := by
    decide +kernel
  rw [hturn] at hrefused
  exact absurd hrefused (by decide)

end Saa7231
