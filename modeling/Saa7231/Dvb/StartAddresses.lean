import Saa7231.Dvb.Evhandler
import Saa7231.Interaction.Runs
import Saa7231.Stream.FreshStream

/-!
# The start addresses over acquires and interrupts

`saa7231_ts2dtl_set_buffer` hands `DMAADDR` a pointer to one element of the buffer array, and
`DMAADDR` reads the offset as many elements behind it as the slot has number. All page offsets
of allocated buffers are zero, so a wrong element gives the right word, as long as it lies in
the array. `start_addresses_iff` is the exact condition: the position of the ring and the slot
number of every interrupt add up to at most fifteen.
-/

namespace Saa7231

open Interaction Bus

/-- A stream and its board. -/
structure Drive where
  stream : Stream
  board : Board

/-- The events that write start addresses. -/
inductive DriveEvent where
  | acquire (env : Environment)
  | interrupt (env : Environment)

/-- One event. -/
def Drive.step (drive : Drive) : DriveEvent → Drive
  | .acquire env =>
      let result := (ts2dtlAcquire drive.stream).run (boardWorld env) drive.board
      ⟨result.1.2, result.2⟩
  | .interrupt env =>
      let result := (evhandler drive.stream).run (boardWorld env) drive.board
      ⟨result.1, result.2⟩

/-- No offset was read behind the end of the buffer array, and the word last written to every start
address is made of the number of the slot, the channel and the offset of the buffer that the slot
names. -/
def Drive.AddressesMatch (drive : Drive) : Prop :=
  drive.board.overruns = [] ∧
    ∀ i < 8, drive.board.written (drive.stream.dtl.module + s2dChxBStartAddress i 0) = true →
      ∃ n < ringsiz,
        drive.board.slot (dmach drive.stream.portId) i = drive.stream.ring.ptPhys n ∧
        drive.board.regs (drive.stream.dtl.module + s2dChxBStartAddress i 0) =
          BitVec.ofNat 32 i <<< 26 ||| BitVec.ofNat 32 (drive.stream.portId + 1) <<< 21 |||
            drive.stream.ring.offset n

/-- The slot number and the tail of the ring stay inside the buffer array, unless the slot
number is refused. -/
def DriveEvent.InArray (drive : Drive) : DriveEvent → Prop
  | .acquire _ => True
  | .interrupt _ => drive.stream.turn < 8 → drive.stream.ring.tail + drive.stream.turn < ringsiz

/-- A stream between two events, all of whose reads were inside the array. -/
structure Drive.Inv (drive : Drive) : Prop where
  equipped : drive.stream.Equipped
  params : drive.stream.params = tsParams
  idle : ∃ position, drive.stream.ring.Idle position
  overruns : drive.board.overruns = []
  slot : ∀ i < 8, ∃ n < ringsiz,
    drive.board.slot (dmach drive.stream.portId) i = drive.stream.ring.ptPhys n
  bStart : ∀ i < 8, drive.board.bStartWritten drive.stream.dtl.module i = true →
    drive.board.bStart drive.stream.dtl.module i = startWord drive.stream.portId i 0

theorem Drive.Inv.addresses_match {drive : Drive} (h : drive.Inv) : drive.AddressesMatch := by
  refine ⟨h.overruns, fun i hi hwritten => ?_⟩
  obtain ⟨n, hn, hslot⟩ := h.slot i hi
  refine ⟨n, hn, hslot, ?_⟩
  rw [h.equipped.offset n hn]
  exact h.bStart i hi hwritten

/-- An acquire writes the first eight buffers and their offsets, or nothing. -/
theorem Drive.Inv.acquire {drive : Drive} (h : drive.Inv) (env : Environment) :
    (drive.step (.acquire env)).Inv := by
  obtain ⟨position, hidle⟩ := h.idle
  have hlength := h.equipped.eight_buffers
  have hvalid : drive.stream.params.valid = true := by
    rw [h.params]
    exact ts_params_valid
  have htype : drive.stream.params.type = .ts := by
    rw [h.params]
    rfl
  have hbelow := h.equipped.below_mmu
  have hsame : SameHardware drive.stream (drive.step (.acquire env)).stream :=
    acquire_yields.run (boardWorld env) drive.board
  have hring : (drive.step (.acquire env)).stream.ring = drive.stream.ring := by
    show ((ts2dtlAcquire _).run _ _).1.2.ring = _
    rw [acquire_value env drive.board hvalid htype hlength]
    exact acquired_ring env
  have hoverruns : (drive.step (.acquire env)).board.overruns = [] :=
    (overruns_frame (only_acquire (A := Footprint drive.stream.portId drive.stream.dtl.module)
      (R := []) (Or.inl hlength) fun _ h => h) (by simp) drive.board).trans h.overruns
  by_cases hclock : drive.stream.Clockable env
  · have hprograms : drive.stream.Programs env :=
      ⟨hvalid, htype, hlength, hbelow, hclock, h.equipped.port⟩
    refine ⟨h.equipped.transfer hsame, hsame.params.trans h.params, ⟨position, hring ▸ hidle⟩,
      hoverruns, fun i hi => ⟨i, Nat.lt_trans hi (by decide), ?_⟩, fun i hi _ => ?_⟩
    · rw [hsame.portId, hsame.pt_phys]
      exact slot_acquire env drive.board hprograms hi
    · have hoffset := h.equipped.offset i (Nat.lt_trans hi (by decide))
      rw [hsame.portId, hsame.module, ← hoffset]
      exact b_start_acquire env drive.board hprograms hi
  · have hrefused := acquire_refused env drive.board hvalid fun hboth => hclock hboth.1
    have hboard : (drive.step (.acquire env)).board = drive.board :=
      congrArg Prod.snd hrefused
    refine ⟨h.equipped.transfer hsame, hsame.params.trans h.params, ⟨position, hring ▸ hidle⟩,
      hoverruns, ?_, ?_⟩
    · intro i hi
      obtain ⟨n, hn, hslot⟩ := h.slot i hi
      refine ⟨n, hn, ?_⟩
      rw [hboard, hsame.portId, hsame.pt_phys]
      exact hslot
    · rw [hboard, hsame.module, hsame.portId]
      exact h.bStart

theorem Drive.Inv.handled {drive : Drive} (h : drive.Inv) (env : Environment) :
    ∃ position, drive.stream.ring.Idle position ∧
      Handled position drive.stream drive.board (drive.step (.interrupt env)).stream
        (drive.step (.interrupt env)).board := by
  obtain ⟨position, hidle⟩ := h.idle
  exact ⟨position, hidle, evhandler_handled env drive.board hidle h.equipped.ops
    h.equipped.below_mmu⟩

/-- An interrupt whose read stays inside the array writes one more matching word. -/
theorem Drive.Inv.interrupt {drive : Drive} (h : drive.Inv) (env : Environment)
    (hinside : (DriveEvent.interrupt env).InArray drive) :
    (drive.step (.interrupt env)).Inv := by
  obtain ⟨position, hidle, hhandled⟩ := h.handled env
  have hsame := hhandled.hardware
  have hread : drive.stream.turn < 8 →
      position + drive.stream.turn < drive.stream.ring.dmabuf.length := by
    rw [h.equipped.length, ← hidle.tail]
    exact hinside
  refine ⟨h.equipped.transfer hsame, hsame.params.trans h.params, ⟨_, hhandled.idle⟩,
    (hhandled.exchanged.overruns hread).trans h.overruns, fun i hi => ?_, fun i hi => ?_⟩
  · rw [hsame.portId, hhandled.exchanged.slot i hi]
    split
    next => exact ⟨position, hidle.bound, (hsame.pt_phys position).symm⟩
    next =>
        obtain ⟨n, hn, hslot⟩ := h.slot i hi
        exact ⟨n, hn, hslot.trans (hsame.pt_phys n).symm⟩
  · rw [hsame.module, hsame.portId, hhandled.exchanged.bStart hread i hi]
    split
    next hturn =>
        have hbound : position + i < ringsiz := by
          rw [← h.equipped.length, hturn]
          exact hread (hturn ▸ hi)
        rw [h.equipped.offset _ hbound]
        exact fun _ => rfl
    next hother =>
        rw [hhandled.exchanged.written i hi hother]
        exact h.bStart i hi

/-- Any other interrupt reads behind the array. -/
theorem Drive.Inv.interrupt_outside {drive : Drive} (h : drive.Inv) (env : Environment)
    (houtside : ¬ (DriveEvent.interrupt env).InArray drive) :
    ¬ (drive.step (.interrupt env)).AddressesMatch := by
  obtain ⟨position, hidle, hhandled⟩ := h.handled env
  obtain ⟨hturn, hbehind⟩ := Classical.not_imp.mp houtside
  rw [hidle.tail, Nat.not_lt, ← h.equipped.length] at hbehind
  exact fun hmatch => hhandled.exchanged.overrun hturn hbehind hmatch.1

/-- A stream that was initialised on a cleared board. -/
theorem Drive.fresh_inv {env : Environment} {config : TsConfig} {adapType : AdapterType}
    {count pages : Nat} {stream : Stream} {board : Board}
    (hinit : (streamInit config .digitalCapture adapType count pages).run (boardWorld env) .reset =
      (some stream, board)) : (Drive.mk stream board).Inv := by
  have hfresh := stream_init_fresh env hinit
  refine ⟨hfresh.equipped, hfresh.params, ⟨0, hfresh.idle⟩, hfresh.framed.overruns, ?_, ?_⟩
  · exact fun i hi => ⟨i, Nat.lt_trans hi (by decide), hfresh.slot i hi⟩
  · intro i hi hwritten
    rcases hfresh.bStart i hi with hword | hunwritten
    · exact hword
    · exact Bool.noConfusion (hunwritten.symm.trans hwritten)

/-- The exact condition, from any state in which the addresses match. -/
theorem Drive.Inv.always_match_iff {drive : Drive} (h : drive.Inv) (events : List DriveEvent) :
    Always Drive.step Drive.AddressesMatch drive events ↔
      Each Drive.step DriveEvent.InArray drive events := by
  refine always_iff_each h (fun _ hinv => hinv.addresses_match) ?_ ?_
    (each_of_forall (C := fun _ _ => True) fun _ _ => trivial)
  · intro state event hinv _ hinside
    cases event with
    | acquire env => exact hinv.acquire env
    | interrupt env => exact hinv.interrupt env hinside
  · intro state event hinv _ houtside
    cases event with
    | acquire env => exact absurd trivial houtside
    | interrupt env => exact hinv.interrupt_outside env houtside

/-- Over every run of acquires and interrupts from an initialised stream, the start addresses
always match the slots, and no offset is read behind the buffer array, if and only if at every
interrupt the slot number and the tail of the ring add up to at most fifteen. -/
theorem start_addresses_iff {env : Environment} {config : TsConfig} {adapType : AdapterType}
    {count pages : Nat} {stream : Stream} {board : Board}
    (hinit : (streamInit config .digitalCapture adapType count pages).run (boardWorld env) .reset =
      (some stream, board)) (events : List DriveEvent) :
    Always Drive.step Drive.AddressesMatch ⟨stream, board⟩ events ↔
      Each Drive.step DriveEvent.InArray ⟨stream, board⟩ events :=
  (Drive.fresh_inv hinit).always_match_iff events

/-- One acquire and one interrupt on an initialised stream. -/
theorem start_addresses_first_interrupt :
    ∃ stream, plainInit = (some stream, plainInit.2) ∧
      (Always Drive.step Drive.AddressesMatch ⟨stream, plainInit.2⟩
          [.acquire .plain, .interrupt .plain] ↔
        Each Drive.step DriveEvent.InArray ⟨stream, plainInit.2⟩
          [.acquire .plain, .interrupt .plain]) := by
  obtain ⟨stream, hinit⟩ := plain_init
  exact ⟨stream, hinit, start_addresses_iff hinit _⟩

/-- The stream of `plainInit` and its board. -/
def plainDrive : Drive := ⟨plainInit.1.get plain_init_some, plainInit.2⟩

/-- The thirteenth interrupt reads element sixteen of the array of sixteen. -/
theorem thirteenth_interrupt_reads_behind :
    ¬ Always Drive.step Drive.AddressesMatch plainDrive
      (List.replicate 13 (.interrupt .plain)) := by
  intro hmatch
  have hlast := always_iff_prefix.mp hmatch (List.replicate 13 (.interrupt .plain)) []
    (List.append_nil _).symm
  have hoverruns : ((List.replicate 13 (.interrupt .plain)).foldl Drive.step
      plainDrive).board.overruns = [16] := by
    decide +kernel
  exact absurd (hoverruns.symm.trans hlast.1) (by decide)

end Saa7231
