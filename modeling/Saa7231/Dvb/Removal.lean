import Saa7231.Dvb.Device
import Saa7231.Dvb.StreamMemory
import Saa7231.Stream.InitFrame

/-!
# Memory over the life of a device

While the driver is loaded, every stream is backed (`Stream.Backed`): each event concerns one
adapter and stays away from the registers of the others. The removal frees the buffers of all
streams and does not touch the engines, so it is safe exactly when no engine has run
(`memory_kept_iff`).
-/

namespace Saa7231

open Interaction Bus

/-! ## The adapters do not share registers -/

/-- The largest vector of an adapter with a stream. -/
def lastVector : Nat := 48

namespace DvbConfig

variable (config : DvbConfig) {i k : Nat}

/-- The vectors of the first two adapters have a controller word. -/
theorem vector_le (hi : i < 2) : (config.adapType i).vector (config.typeNumber i) ≤ lastVector := by
  unfold adapType typeNumber lastVector
  split
  next => show 45 + i ≤ 48; omega
  next => show 47 + (i - config.builtinAdapters) ≤ 48; omega

/-- The port of an adapter, by its type. -/
theorem port_cases : config.port i = 8 + i ∨ config.port i = 10 + i := by
  unfold port adapType
  split
  next => exact Or.inl rfl
  next => exact Or.inr rfl

/-- The engine of an adapter, by its type. -/
theorem module_cases :
    config.module i = Mod.ts2d0Dtv + i * 0x1000 ∨
      config.module i = Mod.ts2d0Extern + i * 0x1000 := by
  unfold module adapType
  split
  next => exact Or.inl rfl
  next => exact Or.inr rfl

/-- Two adapters have different registers. -/
theorem avoids_other (hi : i < 2) (hk : k < 2) (hne : i ≠ k) :
    AvoidsStream (Footprint (config.port k) (config.module k)) (config.port i)
      (config.module i) := by
  have hport := config.port_cases (i := i)
  have hport' := config.port_cases (i := k)
  have hmodule := config.module_cases (i := i)
  have hmodule' := config.module_cases (i := k)
  unfold Mod.ts2d0Dtv Mod.ts2d0Extern at hmodule hmodule'
  constructor
  · unfold Footprint InModule InChannel Mod.stream Mod.mmu ptaBase s2dS2dCtrl
    omega
  · intro slot hslot fld
    have hfld : fld.offset = 0 ∨ fld.offset = 4 := by
      cases fld with
      | lsb => exact Or.inl rfl
      | msb => exact Or.inr rfl
    unfold Footprint InModule InChannel Mod.stream Mod.mmu mmuPta mmuDmaConfig ptaBase dmach
    omega

/-- The registers that belong to adapter `i`. Only two adapters can have a stream. -/
def Registers (i : Nat) (address : Nat) : Prop :=
  i < 2 ∧ Footprint (config.port i) (config.module i) address

/-- One adapter's registers are apart from the other's. -/
theorem avoids_registers (hi : i < 2) (hne : i ≠ k) :
    AvoidsStream (config.Registers k) (config.port i) (config.module i) :=
  ⟨fun h => (config.avoids_other hi h.1 hne).control h.2,
    fun slot hslot fld h => (config.avoids_other hi h.1 hne).slots slot hslot fld h.2⟩

/-- The interrupt controller is apart from all streams. -/
theorem avoids_msi : AvoidsStream (InModule Mod.msi) (config.port i) (config.module i) := by
  have hmodule := config.module_cases (i := i)
  unfold Mod.ts2d0Dtv Mod.ts2d0Extern at hmodule
  constructor
  · unfold InModule Mod.msi s2dS2dCtrl
    omega
  · intro slot hslot fld
    unfold InModule Mod.msi Mod.mmu
    omega

end DvbConfig

/-! ## Events only write to the interrupt controller -/

section Events

variable {events : Events DvbHandler} {vector : Nat}

/-- A vector is switched in the interrupt controller. -/
theorem only_vector_ctl {E : BoardOp → Prop} (hvector : vector ≤ lastVector) (ctl : Bool) :
    (vectorCtl vector ctl : BoardProgram Unit).Only (WritesIn (InModule Mod.msi) E) := by
  unfold lastVector at hvector
  have hset : InModule Mod.msi (Mod.msi + msiIntEnaSet (vector / 32)) := by
    refine ⟨by omega, ?_⟩
    unfold msiIntEnaSet
    omega
  have hclr : InModule Mod.msi (Mod.msi + msiIntEnaClr (vector / 32)) := by
    refine ⟨by omega, ?_⟩
    unfold msiIntEnaClr
    omega
  cases ctl <;> simp [vectorCtl, hset, hclr]

/-- Registering an event. -/
theorem only_add_irqevent {adapType : AdapterType} {number : Nat}
    (hvector : adapType.vector number ≤ lastVector) :
    (dvbAddIrqevent bug events adapType number).Only (Touches (InModule Mod.msi) [.bugs]) := by
  have hconfig : InModule Mod.msi (Mod.msi + msiConfig (adapType.vector number)) := by
    unfold lastVector at hvector
    refine ⟨by omega, ?_⟩
    unfold msiConfig
    omega
  have hsetup : (rd (Mod.msi + msiConfig (adapType.vector number)) >>= fun config => do
      wr ((config &&& 0xfcffffff) ||| Edge.rising.config)
        (Mod.msi + msiConfig (adapType.vector number))
      vectorCtl (adapType.vector number) true : BoardProgram Unit).Only
      (Touches (InModule Mod.msi) [.bugs]) := by
    simp only [only_rd_bind, only_wr_bind]
    exact fun _ => ⟨hconfig, only_vector_ctl hvector true⟩
  refine Program.Only.bind ?_ fun _ => trivial
  unfold setupVector
  dsimp only
  rw [Program.only_ite]
  exact ⟨fun _ => ⟨fun _ hrecord => List.mem_singleton.mpr (Option.some.inj hrecord).symm,
    fun _ => hsetup⟩, fun _ => hsetup⟩

/-- Removing an event. -/
theorem only_remove_irqevent (hvector : vector ≤ lastVector) :
    (removeIrqevent events vector : BoardProgram _).Only (ReleasesOr (InModule Mod.msi)) := by
  unfold removeIrqevent
  rw [Program.only_ite]
  exact ⟨fun _ => Program.Only.bind (only_vector_ctl hvector false) fun _ => trivial,
    fun _ => trivial⟩

end Events

/-! ## The invariant -/

/-- What holds of every device whose driver is loaded. -/
structure Device.Inv (config : DvbConfig) (device : Device) : Prop where
  vector : ∀ i, (device.dvb i).vector ≤ lastVector
  known : ∀ i, (device.dvb i).stream ≠ none → i < device.registered ∧ i < 2
  port : ∀ i stream, (device.dvb i).stream = some stream →
    stream.portId = config.port i ∧ stream.dtl.module = config.module i
  backed : ∀ i stream, (device.dvb i).stream = some stream → stream.Backed device.board
  off : device.failed = false → ∀ i < 2, (device.dvb i).stream = none →
    device.board.enabled (config.module i) = false

/-- An engine runs on allocated memory only. -/
theorem Stream.Backed.namesAllocated {stream : Stream} {board : Board} (h : stream.Backed board) :
    stream.NamesAllocated board := by
  intro i hi
  obtain ⟨j, hj, hslot⟩ := h.slot i hi
  exact ⟨_, h.mem_ring hj, hslot, h.allocated _ (h.mem_ring hj)⟩

namespace Device.Inv

variable {config : DvbConfig} {device : Device}

/-- Only registered adapters have a stream. -/
theorem known_some (h : device.Inv config) {i : Nat} {stream : Stream}
    (hstream : (device.dvb i).stream = some stream) : i < device.registered ∧ i < 2 :=
  h.known i (by rw [hstream]; exact Option.some_ne_none stream)

/-- The invariant keeps the memory of running streams. -/
theorem keepsMemory (h : device.Inv config) : device.KeepsMemory :=
  fun i stream hstream _ => (h.backed i stream hstream).namesAllocated

/-- It holds before any adapter is registered. -/
theorem initial (array : Nat) (events : Events DvbHandler) : (probing array events).Inv config where
  vector _ := Nat.zero_le _
  known _ hstream := absurd rfl hstream
  port _ _ hstream := by cases hstream
  backed _ _ hstream := by cases hstream
  off _ i _ _ := by
    show (0 : BitVec 32).getLsbD 0 = false
    rfl

/-- A board that differs outside the registers of the streams, and loses no resources. -/
theorem withBoard (h : device.Inv config) {board : Board} {A : Nat → Prop}
    (havoids : ∀ i < 2, AvoidsStream A (config.port i) (config.module i))
    (hregs : ∀ address, ¬ A address → board.regs address = device.board.regs address)
    (hgrows : device.board.Grows board) : Inv config { device with board := board } := by
  refine ⟨h.vector, h.known, h.port, fun i stream hstream => ?_, fun hfailed i hi hstream => ?_⟩
  · have hport := h.port i stream hstream
    have hi : i < 2 := (h.known_some hstream).2
    refine (h.backed i stream hstream).frame ?_ hregs hgrows
    rw [hport.1, hport.2]
    exact havoids i hi
  · rw [← h.off hfailed i hi hstream]
    unfold Board.enabled
    show (board.regs _).getLsbD 0 = _
    rw [hregs _ (havoids i hi).control]

/-- Replacing one adapter, by something that stays within its registers. -/
theorem withAdapter (h : device.Inv config) {i : Nat} {dvb : Dvb} {outstanding : Nat}
    {board : Board} (hvector : dvb.vector ≤ lastVector)
    (hsome : ∀ stream, dvb.stream = some stream → (i < device.registered ∧ i < 2) ∧
      (stream.portId = config.port i ∧ stream.dtl.module = config.module i) ∧
      stream.Backed board)
    (hnone : device.failed = false → i < 2 → dvb.stream = none →
      board.enabled (config.module i) = false)
    (hregs : ∀ address, ¬ config.Registers i address →
      board.regs address = device.board.regs address)
    (hgrows : device.board.Grows board) :
    (device.withAdapter i dvb outstanding board).Inv config := by
  have hcases : ∀ j, (j = i ∧ (device.withAdapter i dvb outstanding board).dvb j = dvb) ∨
      (j ≠ i ∧ (device.withAdapter i dvb outstanding board).dvb j = device.dvb j) := by
    intro j
    by_cases hj : j = i
    · exact Or.inl ⟨hj, by rw [hj]; exact Function.update_self _ _ _⟩
    · exact Or.inr ⟨hj, Function.update_of_ne hj _ _⟩
  -- Adapter `i` has every part by assumption; the registers of the others are apart.
  constructor
  · intro j
    rcases hcases j with ⟨rfl, hdvb⟩ | ⟨hj, hdvb⟩
    · rw [hdvb]
      exact hvector
    · rw [hdvb]
      exact h.vector j
  · intro j hstream
    rcases hcases j with ⟨rfl, hdvb⟩ | ⟨hj, hdvb⟩
    · rw [hdvb] at hstream
      obtain ⟨stream, hstream⟩ := Option.ne_none_iff_exists'.mp hstream
      exact (hsome stream hstream).1
    · rw [hdvb] at hstream
      exact h.known j hstream
  · intro j stream hstream
    rcases hcases j with ⟨rfl, hdvb⟩ | ⟨hj, hdvb⟩
    · rw [hdvb] at hstream
      exact (hsome stream hstream).2.1
    · rw [hdvb] at hstream
      exact h.port j stream hstream
  · intro j stream hstream
    rcases hcases j with ⟨rfl, hdvb⟩ | ⟨hj, hdvb⟩
    · rw [hdvb] at hstream
      exact (hsome stream hstream).2.2
    · rw [hdvb] at hstream
      have hport := h.port j stream hstream
      have hlt : j < 2 := (h.known_some hstream).2
      refine (h.backed j stream hstream).frame ?_ hregs hgrows
      rw [hport.1, hport.2]
      exact config.avoids_registers hlt hj
  · intro hfailed j hlt hstream
    rcases hcases j with ⟨rfl, hdvb⟩ | ⟨hj, hdvb⟩
    · rw [hdvb] at hstream
      exact hnone hfailed hlt hstream
    · rw [hdvb] at hstream
      rw [← h.off hfailed j hlt hstream]
      unfold Board.enabled
      show (board.regs _).getLsbD 0 = _
      rw [hregs _ (config.avoids_registers hlt hj).control]

/-- Feeds and interrupts. -/
theorem confined (h : device.Inv config) {i : Nat} {dvb : Dvb} {outstanding : Nat}
    {board : Board} (hconfined : (device.dvb i).Confined device.board dvb board) :
    (device.withAdapter i dvb outstanding board).Inv config := by
  have hvector : dvb.vector ≤ lastVector := hconfined.vector ▸ h.vector i
  cases hstream : (device.dvb i).stream with
  | none =>
      obtain ⟨hdvb, hregs, hlive⟩ := hconfined.none hstream
      refine h.withAdapter hvector (fun stream heq => ?_) (fun hfailed hi _ => ?_)
        (fun address _ => congrFun hregs address) (Board.Grows.of_live hlive)
      · rw [hdvb] at heq
        cases heq
      · unfold Board.enabled
        rw [hregs]
        exact h.off hfailed i hi hstream
  | some stream =>
      obtain ⟨stream', hdvb, hkept⟩ := hconfined.some stream hstream (h.backed i stream hstream)
      have hknown := h.known_some hstream
      have hport := h.port i stream hstream
      refine h.withAdapter hvector (fun found heq => ?_) (fun _ _ heq => ?_)
        (fun address hout => ?_) (Board.Grows.of_live hkept.live)
      · rw [hdvb] at heq
        cases heq
        exact ⟨hknown, ⟨hkept.portId.trans hport.1, hkept.module.trans hport.2⟩, hkept.backed⟩
      · rw [hdvb] at heq
        cases heq
      · refine hkept.regs address fun hin => hout ⟨hknown.2, ?_⟩
        rwa [← hport.1, ← hport.2]

/-- Registering another adapter, which has no stream yet. -/
theorem register_step (h : device.Inv config) :
    (device.step config .registerAdapter).Inv config := by
  have hnone : (device.dvb device.registered).stream = none := by
    by_contra hstream
    exact Nat.lt_irrefl _ (h.known _ hstream).1
  have hself : (device.step config .registerAdapter).dvb device.registered =
      { Dvb.zero with frontend := true } := Function.update_self _ _ _
  have hother : ∀ j, j ≠ device.registered →
      (device.step config .registerAdapter).dvb j = device.dvb j :=
    fun j hj => Function.update_of_ne hj _ _
  have hstream : ∀ j, ((device.step config .registerAdapter).dvb j).stream =
      (device.dvb j).stream := by
    intro j
    by_cases hj : j = device.registered
    · rw [hj, hself, hnone]
      rfl
    · rw [hother j hj]
  refine ⟨fun j => ?_, fun j hsome => ?_, fun j stream hsome => ?_, fun j stream hsome => ?_,
    fun hfailed j hj hsome => ?_⟩
  · by_cases hj : j = device.registered
    · rw [hj, hself]
      exact Nat.zero_le _
    · rw [hother j hj]
      exact h.vector j
  · rw [hstream] at hsome
    exact ⟨Nat.lt_succ_of_lt (h.known j hsome).1, (h.known j hsome).2⟩
  · exact h.port j stream (hstream j ▸ hsome)
  · exact h.backed j stream (hstream j ▸ hsome)
  · exact h.off hfailed j hj (hstream j ▸ hsome)

/-- What the initialisation of the stream of adapter `i` does to the board. -/
theorem init_board (env : Environment) (config : DvbConfig) (i : Nat) (dvb : Dvb)
    (events : Events DvbHandler) (board : Board) :
    (∃ board', (dvbInitStream config i dvb events).run (boardWorld env) board = (none, board') ∧
      board.Grows board' ∧
      ∀ address, ¬ config.Registers i address → board'.regs address = board.regs address) ∨
    ∃ stream board₁ events' board',
      (dvbInitStream config i dvb events).run (boardWorld env) board =
        (some ({ dvb with
          adapter := i
          stream := some stream
          vector := (config.adapType i).vector (config.typeNumber i) }, events'), board') ∧
      stream.Fresh (config.adapType i) i board board₁ ∧ board.Grows board₁ ∧
      (∀ address, ¬ config.Registers i address → board₁.regs address = board.regs address) ∧
      board₁.Grows board' ∧
      ∀ address, ¬ InModule Mod.msi address → board'.regs address = board₁.regs address := by
  have hgrows := stream_init_grows env board config.ts (config.adapType i) i tsPages188
  have hregs : ∀ address, ¬ config.Registers i address →
      ((streamInit config.ts .digitalCapture (config.adapType i) i tsPages188).run (boardWorld env)
        board).2.regs address = board.regs address := fun address hout =>
    regs_frame (only_stream_init config.ts (config.adapType i) i tsPages188) hout board
  generalize hinit : (streamInit config.ts .digitalCapture (config.adapType i) i tsPages188).run
    (boardWorld env) board = init at hgrows hregs
  obtain ⟨result, board₁⟩ := init
  unfold dvbInitStream
  simp only [Program.run_bind, hinit]
  cases result with
  | none => exact Or.inl ⟨board₁, rfl, hgrows, hregs⟩
  | some stream =>
      have hfresh := stream_init_fresh env hinit
      have honly : (dvbAddIrqevent bug events (config.adapType i) (config.typeNumber i)).Only
          (Touches (InModule Mod.msi) [.bugs]) :=
        only_add_irqevent (config.vector_le hfresh.number)
      generalize hadded : (dvbAddIrqevent bug events (config.adapType i)
        (config.typeNumber i)).run (boardWorld env) board₁ = added
      refine Or.inr ⟨stream, board₁, added.1.2, added.2, ?_, hfresh, hgrows, hregs, ?_, ?_⟩
      · simp only [Program.run_bind, Program.run_pure, hadded]
      · rw [← hadded]
        exact Board.Grows.of_live (live_frame honly (by simp) board₁)
      · rw [← hadded]
        exact fun address hout => regs_frame honly hout board₁

/-- The stream of the adapter that was registered last. -/
theorem stream_init_step (h : device.Inv config) {env : Environment}
    (hvalid : (DeviceEvent.streamInit env).Valid config device) :
    (device.step config (.streamInit env)).Inv config := by
  obtain ⟨-, hprobing, hregistered, hnone⟩ := hvalid
  have hlast : device.registered - 1 < device.registered := Nat.sub_lt hregistered Nat.one_pos
  unfold Device.step
  dsimp only
  generalize device.registered - 1 = i at hnone hlast
  rcases init_board env config i (device.dvb i) device.events device.board with
    ⟨board, hrun, hgrows, hregs⟩ |
    ⟨stream, board₁, events, board, hrun, hfresh, hgrows, hregs, hgrows', hregs'⟩
  · -- After a failure nothing is initialised any more, so this engine may be left on.
    have hfailed : Inv config { device with failed := true } :=
      ⟨h.vector, h.known, h.port, h.backed, fun hfalse => Bool.noConfusion hfalse⟩
    have hboard : Inv config (Device.withAdapter { device with failed := true } i (device.dvb i)
        (device.outstanding i) board) := by
      refine hfailed.withAdapter (h.vector i) (fun stream hstream => ?_)
        (fun hfalse => Bool.noConfusion hfalse) hregs hgrows
      rw [hnone] at hstream
      cases hstream
    rw [hrun]
    unfold Device.withAdapter at hboard
    simpa only [Function.update_eq_self] using hboard
  · have hinit : Inv config (device.withAdapter i { device.dvb i with
        adapter := i
        stream := some stream
        vector := (config.adapType i).vector (config.typeNumber i) } (device.outstanding i)
        board₁) := by
      refine h.withAdapter (config.vector_le hfresh.number) (fun found hfound => ?_)
        (fun _ _ hfalse => ?_) hregs hgrows
      · cases hfound
        refine ⟨⟨hlast, hfresh.number⟩, ⟨hfresh.portId, hfresh.module⟩, ?_⟩
        refine Stream.Backed.of_fresh hfresh ?_
        rw [hfresh.module]
        exact h.off hprobing i hfresh.number hnone
      · cases hfalse
    have hboard := hinit.withBoard (fun i _ => config.avoids_msi) hregs' hgrows'
    rw [hrun]
    exact ⟨hboard.vector, hboard.known, hboard.port, hboard.backed, hboard.off⟩

/-- Every event but the removal keeps the invariant. -/
theorem step (h : device.Inv config) {event : DeviceEvent} (hvalid : event.Valid config device)
    (hstay : ∀ env, event ≠ .remove env) : (device.step config event).Inv config := by
  cases event with
  | registerAdapter => exact h.register_step
  | streamInit env => exact h.stream_init_step hvalid
  | startFeed i env => exact h.confined (start_feed_confined env _ _)
  | stopFeed i env => exact h.confined (stop_feed_confined env _ _)
  | interrupt i env => exact h.confined (interrupt_confined env _ _)
  | remove env => exact absurd rfl (hstay env)

end Device.Inv

/-! ## The removal -/

section Exit

variable (env : Environment) {dvb : Nat → Dvb}

/-- Taking down an adapter writes to the interrupt controller, and releases. -/
theorem only_exit_adapter {dvb : Dvb} (hvector : dvb.vector ≤ lastVector)
    (events : Events DvbHandler) :
    (dvbExitAdapter dvb events).Only (ReleasesOr (InModule Mod.msi)) := by
  refine Program.Only.bind ((only_bug_on _).mono fun _ => Releases.or) fun _ => ?_
  refine Program.Only.bind (only_remove_irqevent hvector) fun removed => ?_
  cases dvb.stream with
  | none => trivial
  | some stream =>
      exact Program.Only.bind ((only_stream_exit stream).mono fun _ => Releases.or) fun _ => trivial

/-- The removal of the adapters releases, and writes to the interrupt controller. -/
theorem only_dvb_exit (hvector : ∀ i, (dvb i).vector ≤ lastVector) (array adapters : Nat)
    (events : Events DvbHandler) :
    (dvbExit array adapters dvb events).Only (ReleasesOr (InModule Mod.msi)) := by
  refine Program.Only.bind (Program.Only.loop (fun i _ events => ?_) events) fun _ => ?_
  · exact only_exit_adapter (hvector i) events
  · exact Program.Only.bind ((only_release _).mono fun _ => Releases.or) fun _ => trivial

/-- The page tables of a stream are released with its adapter. -/
theorem exit_adapter_dead {dvb : Dvb} {stream : Stream} (hstream : dvb.stream = some stream)
    (h : stream.Equipped) (events : Events DvbHandler) (board : Board) {j : Nat}
    (hj : j < ringsiz) :
    ((dvbExitAdapter dvb events).run (boardWorld env) board).2.live
      (.single (stream.ring.ptPhys j)) = false := by
  unfold dvbExitAdapter
  simp only [Program.run_bind, hstream]
  exact stream_exit_dead env h _ hj

/-- And they stay released. -/
theorem dvb_exit_dead (hvector : ∀ i, (dvb i).vector ≤ lastVector) {adapters i : Nat}
    (hi : i < adapters) {stream : Stream} (hstream : (dvb i).stream = some stream)
    (h : stream.Equipped) (array : Nat) (events : Events DvbHandler) (board : Board) {j : Nat}
    (hj : j < ringsiz) :
    ((dvbExit array adapters dvb events).run (boardWorld env) board).2.live
      (.single (stream.ring.ptPhys j)) = false := by
  have hloop : ((Program.loop adapters (fun i events => dvbExitAdapter (dvb i) events) events).run
      (boardWorld env) board).2.live (.single (stream.ring.ptPhys j)) = false := by
    -- Adapter `i` is taken down in its turn, and the later ones release nothing back to life.
    induction adapters with
    | zero => exact absurd hi (Nat.not_lt_zero i)
    | succ n ih =>
        rw [Program.loop, Program.run_bind]
        rcases Nat.lt_succ_iff_lt_or_eq.mp hi with hlt | rfl
        · exact dead_frame env (only_exit_adapter (hvector n) _) (ih hlt)
        · exact exit_adapter_dead env hstream h _ _ hj
  unfold dvbExit
  rw [Program.run_bind]
  exact dead_frame env (only_release _) hloop

end Exit

/-! ## The life of a device -/

/-- No engine is enabled. -/
def Device.AllOff (device : Device) : Prop :=
  ∀ i stream, (device.dvb i).stream = some stream → device.board.enabled stream.dtl.module = false

/-- A loaded driver keeps the invariant, a removed one has left all engines off. -/
def Device.Sound (config : DvbConfig) (device : Device) : Prop :=
  if device.removed then device.AllOff else device.Inv config

namespace Device

variable {config : DvbConfig} {device : Device}

/-- The removal leaves the registers of all streams alone. -/
theorem remove_regs (h : device.Inv config) (env : Environment) {address : Nat}
    (hout : ¬ InModule Mod.msi address) :
    (device.step config (.remove env)).board.regs address = device.board.regs address :=
  regs_frame ((only_dvb_exit h.vector _ _ _).mono fun _ => ReleasesOr.touches) hout device.board

/-- After a removal an engine is enabled exactly if its stream still says so. -/
theorem remove_enabled (h : device.Inv config) (env : Environment) {i : Nat} {stream : Stream}
    (hstream : (device.dvb i).stream = some stream) :
    (device.step config (.remove env)).board.enabled stream.dtl.module = stream.dtl.streamRun := by
  rw [← (h.backed i stream hstream).enabled, (h.port i stream hstream).2]
  unfold Board.enabled
  rw [remove_regs h env config.avoids_msi.control]

/-- A removal before any engine ran leaves all engines off. -/
theorem Inv.remove (h : device.Inv config) (env : Environment)
    (hnever : (DeviceEvent.remove env).NeverRan device) :
    (device.step config (.remove env)).AllOff := by
  intro i stream hstream
  rw [remove_enabled h env hstream]
  exact hnever i stream hstream

/-- A removal after an engine ran frees the memory under it. -/
theorem Inv.remove_running (h : device.Inv config) {env : Environment}
    (hvalid : (DeviceEvent.remove env).Valid config device)
    (hran : ¬ (DeviceEvent.remove env).NeverRan device) :
    ¬ (device.step config (.remove env)).KeepsMemory := by
  intro hkeeps
  refine hran fun i stream hstream => ?_
  by_contra hrun
  obtain ⟨-, -, hregistered, -⟩ := hvalid
  have hbacked := h.backed i stream hstream
  have hadapter : i < config.adapters := by
    rw [← hregistered]
    exact (h.known_some hstream).1
  have henabled : (device.step config (.remove env)).board.enabled stream.dtl.module = true := by
    rw [remove_enabled h env hstream]
    exact Bool.eq_true_of_not_eq_false hrun
  -- The first slot still holds the page table that it held before, which is released.
  obtain ⟨dmabuf, -, hslot, hallocated⟩ := hkeeps i stream hstream henabled 0 (by decide)
  obtain ⟨j, hj, hbefore⟩ := hbacked.slot 0 (by decide)
  have hsame : (device.step config (.remove env)).board.slot (dmach stream.portId) 0 =
      device.board.slot (dmach stream.portId) 0 := by
    have hout := (config.avoids_msi (i := i)).slots 0 (by decide)
    rw [← (h.port i stream hstream).1] at hout
    unfold Board.slot
    rw [remove_regs h env (hout .msb), remove_regs h env (hout .lsb)]
  have hdead : (device.step config (.remove env)).board.live
      (.single (stream.ring.ptPhys j)) = false :=
    dvb_exit_dead env h.vector hadapter hstream hbacked.equipped _ _ _ hj
  have hlive := hallocated.mapping
  rw [← hslot, hsame, hbefore, hdead] at hlive
  exact Bool.noConfusion hlive

/-- A sound device keeps the memory. -/
theorem Sound.keepsMemory (h : device.Sound config) : device.KeepsMemory := by
  unfold Sound at h
  split at h
  next =>
      intro i stream hstream henabled
      exact Bool.noConfusion ((h i stream hstream).symm.trans henabled)
  next => exact h.keepsMemory

/-- Before the removal the invariant holds. -/
theorem Sound.loaded (h : device.Sound config) (hloaded : device.removed = false) :
    device.Inv config := by
  unfold Sound at h
  rwa [hloaded] at h

/-- No event but the removal marks the driver as removed. -/
theorem step_removed {event : DeviceEvent} (hstay : ∀ env, event ≠ .remove env) :
    (device.step config event).removed = device.removed := by
  cases event with
  | registerAdapter => rfl
  | streamInit env =>
      unfold step
      dsimp only
      split <;> rfl
  | startFeed | stopFeed | interrupt => rfl
  | remove env => exact absurd rfl (hstay env)

/-- A step after which no running stream was removed is sound. -/
theorem Sound.step (h : device.Sound config) {event : DeviceEvent}
    (hvalid : event.Valid config device) (hnever : event.NeverRan device) :
    (device.step config event).Sound config := by
  have hinv := h.loaded hvalid.1
  unfold Sound
  by_cases hremove : ∃ env, event = .remove env
  · obtain ⟨env, rfl⟩ := hremove
    exact hinv.remove env hnever
  · have hstay : ∀ env, event ≠ .remove env := not_exists.mp hremove
    rw [step_removed hstay, hvalid.1]
    exact hinv.step hvalid hstay

/-- The exact condition, from any sound device. -/
theorem Sound.always_keeps_iff (h : device.Sound config) {events : List DeviceEvent}
    (hvalid : Each (Device.step config) (DeviceEvent.Valid config) device events) :
    Always (Device.step config) KeepsMemory device events ↔
      Each (Device.step config) DeviceEvent.NeverRan device events := by
  refine always_iff_each h (fun _ hsound => hsound.keepsMemory)
    (fun _ _ hsound hallowed hnever => hsound.step hallowed hnever) ?_ hvalid
  intro state event hsound hallowed hran
  cases event with
  | remove env => exact (hsound.loaded hallowed.1).remove_running hallowed hran
  | registerAdapter | streamInit | startFeed | stopFeed | interrupt => exact absurd trivial hran

/-- A probing device is sound. -/
theorem probing_sound (array : Nat) (events : Events DvbHandler) :
    (probing array events).Sound config := Inv.initial array events

end Device

/-- Over every run of a device that the core allows, an engine that is enabled has only
allocated buffers in its slots, if and only if the driver is not removed after an engine has
run. -/
theorem memory_kept_iff (config : DvbConfig) (array : Nat) (events : Events DvbHandler)
    (run : List DeviceEvent)
    (hvalid : Each (Device.step config) (DeviceEvent.Valid config) (.probing array events) run) :
    Always (Device.step config) Device.KeepsMemory (.probing array events) run ↔
      Each (Device.step config) DeviceEvent.NeverRan (.probing array events) run :=
  (Device.probing_sound array events).always_keeps_iff hvalid

/-- One external adapter. -/
def oneExternal : DvbConfig := ⟨⟨0, 0, 0, 0⟩, 0, 1⟩

/-- An event table without events. -/
def noEvents : Events DvbHandler := ⟨fun _ => ⟨0, none⟩, 0⟩

/-- An adapter that is initialised, and whose driver is removed without a feed. -/
theorem memory_kept_without_feeds :
    Always (Device.step oneExternal) Device.KeepsMemory (.probing 0 noEvents)
        [.registerAdapter, .streamInit .plain, .remove .plain] ↔
      Each (Device.step oneExternal) DeviceEvent.NeverRan (.probing 0 noEvents)
        [.registerAdapter, .streamInit .plain, .remove .plain] := by
  refine memory_kept_iff oneExternal 0 noEvents _ ⟨?_, ?_, ?_, trivial⟩
  · exact ⟨rfl, rfl, by decide, fun i hi => absurd hi (Nat.not_lt_zero i)⟩
  · exact ⟨rfl, rfl, Nat.zero_lt_one, rfl⟩
  · show _ ∧ _ ∧ _ ∧ _
    decide +kernel

/-- An adapter whose only feed is started and stopped before its driver is removed. -/
def removedAfterFeed : List DeviceEvent :=
  [.registerAdapter, .streamInit .plain, .startFeed 0 .plain, .stopFeed 0 .plain, .remove .plain]

/-- The engine is still enabled when the removal frees its buffers. -/
theorem removal_frees_running_stream :
    Each (Device.step oneExternal) (DeviceEvent.Valid oneExternal) (.probing 0 noEvents)
        removedAfterFeed ∧
      ¬ Always (Device.step oneExternal) Device.KeepsMemory (.probing 0 noEvents)
        removedAfterFeed := by
  have hvalid : Each (Device.step oneExternal) (DeviceEvent.Valid oneExternal)
      (.probing 0 noEvents) removedAfterFeed := by
    refine ⟨?_, ?_, ?_, ?_, ?_, trivial⟩
    · exact ⟨rfl, rfl, by decide, fun i hi => absurd hi (Nat.not_lt_zero i)⟩
    · exact ⟨rfl, rfl, Nat.zero_lt_one, rfl⟩
    · show _ ∧ _ ∧ _
      decide +kernel
    · show _ ∧ _ ∧ _
      decide +kernel
    · show _ ∧ _ ∧ _ ∧ _
      decide +kernel
  refine ⟨hvalid, ?_⟩
  rw [(Device.probing_sound 0 noEvents).always_keeps_iff hvalid]
  rintro ⟨-, -, -, -, hnever, -⟩
  have hran : (((removedAfterFeed.take 4).foldl (Device.step oneExternal)
      (.probing 0 noEvents)).dvb 0).stream.map (fun stream => stream.dtl.streamRun) =
        some true := by
    decide +kernel
  obtain ⟨stream, hstream, hrun⟩ := Option.map_eq_some_iff.mp hran
  have hoff : stream.dtl.streamRun = false := hnever 0 stream hstream
  exact Bool.noConfusion (hrun.symm.trans hoff)

end Saa7231
