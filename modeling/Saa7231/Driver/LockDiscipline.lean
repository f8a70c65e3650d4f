import Saa7231.Driver.Subsystems
import Saa7231.Dvb.StartStop
import Saa7231.Interaction.Locking

/-!
# Lock discipline of the driver

Seven functions of the driver take a mutex: `dev_lock`, the `i2c_lock` of a master or the `feedlock`
of an adapter. Two of them mishandle an argument that they reject: `saa7231_ts2dtl_init` returns
with `dev_lock` held for a port it does not know, and `saa7231_ts2dtl_acquire` unlocks it, without
having locked it, for parameters that are not complete. All others are disciplined for every
argument (`disciplined_iff_accepted`).
-/

namespace Saa7231

open Interaction Bus Program

/-! ## What the operations do to a lock -/

def BoardOp.lockUse (lock : Mutex) : BoardOp → LockUse
  | .mutexLock other => if other = lock then .lock else .free
  | .mutexUnlock other => if other = lock then .unlock else .free
  | _ => .free

def boardLockUse (lock : Mutex) : BusOp BoardOp → LockUse
  | .extra op => op.lockUse lock
  | _ => .free

/-- The lock of the master. -/
def i2cLockUse : BusOp I2cOp → LockUse
  | .extra .mutexLock => .lock
  | .extra .mutexUnlock => .unlock
  | _ => .free

def driverLockUse (lock : Mutex) : BusOp DriverOp → LockUse
  | .extra (.board op) => op.lockUse lock
  | _ => .free

/-- The operation leaves all mutexes of the streaming code alone. -/
def BoardOp.LeavesLocks : BoardOp → Prop
  | .mutexLock _ | .mutexUnlock _ => False
  | _ => True

abbrev LockFree : BusOp BoardOp → Prop := WritesIn (fun _ => True) BoardOp.LeavesLocks

/-- An operation that is on no mutex is not on this one. -/
theorem LockFree.use_free {op : BusOp BoardOp} (h : LockFree op) (lock : Mutex) :
    boardLockUse lock op = .free := by
  cases op with
  | extra op => cases op <;> first | rfl | exact h.elim
  | _ => rfl

/-- So it is with every operation of a program. -/
theorem only_use_free {α : Type} {program : BoardProgram α} (h : program.Only LockFree)
    (lock : Mutex) : program.Only fun op => boardLockUse lock op = .free :=
  h.mono fun _ hop => hop.use_free lock

/-! ## Streaming code outside the mutex -/

/-- The part of an acquire between lock and unlock. -/
theorem lock_free_acquire_locked (stream : Stream) : (ts2dtlAcquireLocked stream).Only LockFree :=
  only_acquire_locked (fun _ _ => trivial) (Or.inr fun _ => trivial) fun _ _ => trivial

/-- Memory is managed without a mutex. -/
theorem Manages.lock_free {op : BusOp BoardOp} (h : Manages op) : LockFree op := by
  refine WritesIn.mono h (fun _ _ => trivial) fun op hop => ?_
  cases op <;> first | trivial | simp [BoardOp.record] at hop

/-- So are the buffers allocated. -/
theorem lock_free_alloc_buffers (pages i n : Nat) : (allocBuffers pages i n).Only LockFree :=
  (only_alloc_buffers pages i n).mono fun _ => Manages.lock_free

/-! ## The functions -/

/-- The ports that the engine knows. -/
def ts2dtlPorts : List Nat :=
  [streamPortTs2dDtv0, streamPortTs2dDtv1, streamPortTs2dExtern0, streamPortTs2dExtern1,
    streamPortTs2dCam]

/-- The engine is not configured for other ports. -/
theorem ts2dtl_configure_eq_none_iff {config : TsConfig} {stream : Stream} :
    ts2dtlConfigure config stream = none ↔ stream.portId ∉ ts2dtlPorts := by
  unfold ts2dtlConfigure ts2dtlPorts
  dsimp only
  split_ifs <;> simp_all
  tauto

section Mutex

variable {α : Type} {lock other : Mutex} {held : Bool} {Q : α → Bool → Prop}

/-- After a mutex was taken, another one is held if it was before. -/
theorem locks_mutex_lock {f : Unit → BoardProgram α} (hheld : other = lock → held = false)
    (hf : (f ()).Locks (boardLockUse lock) Q (held || decide (other = lock))) :
    (mutexLock other >>= f).Locks (boardLockUse lock) Q held := by
  have hop : boardLockUse lock (.extra (.mutexLock other)) =
    if other = lock then .lock else .free := rfl
  exact locks_lock_if hop hheld fun _ => hf

/-- A mutex that was taken here is given back; another one is held as before. -/
theorem locks_mutex_unlock {f : Unit → BoardProgram α} (hheld : other = lock → held = false)
    (hf : (f ()).Locks (boardLockUse lock) Q held) :
    (mutexUnlock other >>= f).Locks (boardLockUse lock) Q (held || decide (other = lock)) := by
  have hop : boardLockUse lock (.extra (.mutexUnlock other)) =
    if other = lock then .unlock else .free := rfl
  exact locks_unlock_if hop hheld fun _ => hf

/-- The same for a mutex that the driver takes. -/
theorem locks_driver_lock {f : Unit → DriverProgram α} (hheld : other = lock → held = false)
    (hf : (f ()).Locks (driverLockUse lock) Q (held || decide (other = lock))) :
    (Driver.mutexLock other >>= f).Locks (driverLockUse lock) Q held := by
  have hop : driverLockUse lock (.extra (.board (.mutexLock other))) =
    if other = lock then .lock else .free := rfl
  exact locks_lock_if hop hheld fun _ => hf

/-- And for one that it gives back. -/
theorem locks_driver_unlock {f : Unit → DriverProgram α} (hheld : other = lock → held = false)
    (hf : (f ()).Locks (driverLockUse lock) Q held) :
    (Driver.mutexUnlock other >>= f).Locks (driverLockUse lock) Q
      (held || decide (other = lock)) := by
  have hop : driverLockUse lock (.extra (.board (.mutexUnlock other))) =
    if other = lock then .unlock else .free := rfl
  exact locks_unlock_if hop hheld fun _ => hf

end Mutex

/-! ### Streams -/

/-- With complete parameters an acquire takes the mutex and gives it back. -/
theorem ts2dtl_acquire_keeps {stream : Stream} (hvalid : stream.params.valid) {lock : Mutex}
    {held : Bool} (hheld : Mutex.devLock = lock → held = false) :
    (ts2dtlAcquire stream).Keeps (boardLockUse lock) held := by
  rw [ts2dtlAcquire, if_neg (by simp [hvalid])]
  refine locks_mutex_lock hheld (locks_free_bind ?_ fun _ => locks_mutex_unlock hheld rfl)
  exact only_use_free (lock_free_acquire_locked stream) lock

/-- The parameter check jumps to the unlock in front of the lock. -/
theorem ts2dtl_acquire_unlocks {stream : Stream} (hvalid : ¬ stream.params.valid) :
    ¬ (ts2dtlAcquire stream).Disciplined (boardLockUse .devLock) := by
  rw [ts2dtlAcquire, if_pos (by simpa using hvalid)]
  exact fun h => Bool.noConfusion h.1

/-- A known port is left on every path through the unlock. -/
theorem ts2dtl_init_disciplined {stream : Stream} (hport : stream.portId ∈ ts2dtlPorts)
    (config : TsConfig) (pages : Nat) (lock : Mutex) :
    (ts2dtlInit config stream pages).Disciplined (boardLockUse lock) := by
  have hfree : ∀ {α : Type} {program : BoardProgram α}, program.Only LockFree →
      program.Only fun op => boardLockUse lock op = .free := fun h => only_use_free h lock
  have hkzalloc : kzalloc.Only LockFree := ⟨trivial, fun _ => trivial⟩
  have hunlock : ∀ value : Int × Stream,
      (mutexUnlock .devLock >>= fun _ => pure value : BoardProgram _).Locks (boardLockUse lock)
        (fun _ after => after = false) (decide (.devLock = lock)) :=
    fun _ => locks_mutex_unlock (fun _ => rfl) (locks_pure.mpr rfl)
  refine locks_mutex_lock (fun _ => rfl) ?_
  rw [Bool.false_or]
  -- Between the lock and the unlock of each path no operation is on a mutex.
  cases hconfigured : ts2dtlConfigure config stream with
  | none => exact absurd hport (ts2dtl_configure_eq_none_iff.mp hconfigured)
  | some configured =>
      refine locks_free_bind (hfree hkzalloc) fun array => ?_
      cases array with
      | none => exact hunlock _
      | some array =>
          refine locks_free_bind (hfree (lock_free_alloc_buffers _ _ _)) fun buffers => ?_
          refine locks_ite.mpr ⟨fun _ => hunlock _, fun _ => ?_⟩
          refine locks_free_bind (hfree hkzalloc) fun ringHandle => ?_
          cases ringHandle with
          | none => exact hunlock _
          | some ringHandle =>
              refine locks_free_bind (hfree (only_init_ptables fun _ _ => trivial)) fun _ => ?_
              refine locks_free_bind (hfree (only_close_gates _ fun _ _ => trivial)) fun _ => ?_
              exact hunlock _

/-- An unknown port is left with the mutex held. -/
theorem ts2dtl_init_keeps_lock {stream : Stream} (hport : stream.portId ∉ ts2dtlPorts)
    (config : TsConfig) (pages : Nat) :
    ¬ (ts2dtlInit config stream pages).Disciplined (boardLockUse .devLock) := by
  intro h
  rw [ts2dtlInit, ts2dtl_configure_eq_none_iff.mpr hport] at h
  exact Bool.noConfusion (h.2 ())

/-! ### Feeds -/

/-- Starting the DMA acquires the stream, with complete parameters. -/
theorem dma_start_keeps (dvb : Dvb) {lock : Mutex} {held : Bool}
    (hheld : Mutex.devLock = lock → held = false) :
    (dmaStart dvb).Keeps (boardLockUse lock) held := by
  unfold dmaStart
  refine Keeps.bind (keeps_of_free ⟨rfl, fun _ => trivial⟩) fun _ => ?_
  cases dvb.stream with
  | none => exact rfl
  | some stream =>
      cases hops : stream.ops with
      | unset =>
          simp only [hops]
          exact rfl
      | ts2dtl =>
          simp only [hops]
          refine Keeps.bind (ts2dtl_acquire_keeps ts_params_valid hheld) fun acquired => ?_
          refine locks_ite.mpr ⟨fun _ => rfl, fun _ => ?_⟩
          have hrun : (ts2dtlRun acquired.2).Only fun op => boardLockUse lock op = .free :=
            only_use_free (only_run fun _ _ => trivial) lock
          refine Keeps.bind (keeps_of_free hrun) fun started => ?_
          exact locks_ite.mpr ⟨fun _ => rfl, fun _ => rfl⟩

/-- Stopping it takes no mutex. -/
theorem dma_stop_keeps (dvb : Dvb) (lock : Mutex) (held : Bool) :
    (dmaStop dvb).Keeps (boardLockUse lock) held := by
  have hfree : (dmaStop dvb).Only LockFree := by
    unfold dmaStop
    simp only [only_enter_bind]
    refine ⟨trivial, fun _ => ?_⟩
    cases dvb.stream with
    | none => trivial
    | some stream => cases hops : stream.ops <;> simp [hops]
  exact keeps_of_free (only_use_free hfree lock)

/-- Stopping the DMA changes nothing of the adapter but its stream. -/
theorem dma_stop_yields (dvb : Dvb) :
    (dmaStop dvb).Yields fun result => ∃ stream, result.2 = { dvb with stream := stream } := by
  unfold dmaStop
  rw [yields_bind]
  refine Yields.of_forall fun _ => ?_
  cases dvb.stream with
  | none => exact ⟨dvb.stream, rfl⟩
  | some stream =>
      cases hops : stream.ops with
      | unset =>
          simp only [hops]
          exact ⟨dvb.stream, rfl⟩
      | ts2dtl =>
          simp only [hops, yields_ite, yields_pure]
          exact ⟨fun _ => ⟨_, rfl⟩, fun _ => ⟨_, rfl⟩⟩

/-- The body between the lock and the unlock of a feed: it keeps the adapter, so that the mutex that
was locked is unlocked. -/
theorem feed_disciplined {adapter : Nat} {body : BoardProgram Dvb} {result : Dvb → Int × Dvb}
    (hadapter : body.Yields fun dvb => dvb.adapter = adapter) {lock : Mutex}
    (hbody : body.Keeps (boardLockUse lock) (decide (.feedlock adapter = lock))) :
    (do
      mutexLock (.feedlock adapter)
      let dvb ← body
      mutexUnlock (.feedlock dvb.adapter)
      pure (result dvb) : BoardProgram (Int × Dvb)).Disciplined (boardLockUse lock) := by
  refine locks_mutex_lock (fun _ => rfl) (locks_bind.mpr ?_)
  rw [Bool.false_or]
  refine (hbody.and_yields hadapter).mono fun dvb after h => ?_
  rw [h.1, h.2]
  exact locks_mutex_unlock (fun _ => rfl) rfl

/-- A feed is started on every path through the unlock. -/
theorem start_feed_disciplined (dvb : Dvb) (lock : Mutex) :
    (startFeed dvb).Disciplined (boardLockUse lock) := by
  refine locks_ite.mpr ⟨fun _ => rfl, fun _ => ?_⟩
  refine feed_disciplined ?_ ?_
  · refine (start_feed_dma_yields _).mono fun started hstarted => ?_
    obtain ⟨stream, rfl⟩ := hstarted
    rfl
  · refine locks_ite.mpr ⟨fun _ => ?_, fun _ => rfl⟩
    refine Keeps.bind (dma_start_keeps _ fun hlock => ?_) fun _ => rfl
    exact decide_eq_false (by simp [← hlock])

/-- So is one stopped. -/
theorem stop_feed_disciplined (dvb : Dvb) (lock : Mutex) :
    (stopFeed dvb).Disciplined (boardLockUse lock) := by
  refine locks_ite.mpr ⟨fun _ => rfl, fun _ => ?_⟩
  refine feed_disciplined ?_ ?_
  · simp only [stopFeedDma, yields_ite, yields_bind, yields_pure, implies_true, and_true]
    refine fun _ => (dma_stop_yields _).mono fun stopped hstopped => ?_
    obtain ⟨stream, hstopped⟩ := hstopped
    rw [hstopped]
  · exact locks_ite.mpr ⟨fun _ => Keeps.bind (dma_stop_keeps _ lock _) fun _ => rfl,
      fun _ => rfl⟩

/-! ### I2C masters -/

/-- Nothing between the lock and the unlock of a transfer is on the mutex. -/
theorem transfers_free (i2c : I2c) : Transfers i2c fun op => i2cLockUse op = .free where
  toUpkeep := upkeep_of_on_bus ⟨fun _ => rfl, fun _ _ => rfl, fun _ => rfl⟩
  push _ := rfl
  take := rfl
  udelay _ := rfl

/-- A transfer holds the mutex of its master from its first access to its last. -/
theorem i2c_xfer_disciplined (i2c : I2c) (msgs : List I2cMsg) :
    (i2cXfer i2c msgs).Disciplined i2cLockUse := by
  refine (locks_lock rfl).mpr ⟨rfl, fun _ => ?_⟩
  refine locks_free_bind (rd_only.mpr rfl) fun reg => ?_
  refine locks_free_bind (wr_only.mpr rfl) fun _ => ?_
  refine locks_free_bind (only_xfer_msgs (transfers_free i2c) msgs) fun _ => ?_
  exact (locks_unlock rfl).mpr ⟨rfl, fun _ => rfl⟩

/-- The masters are added without a mutex of the driver. -/
theorem i2c_add_all_free (config : DriverConfig) (lock : Mutex) (n i : Nat) :
    (Driver.i2cAddAll config i n).Only fun op => driverLockUse lock op = .free := by
  have hbus : OnBus fun op : BusOp DriverOp => driverLockUse lock op = .free :=
    ⟨fun _ => rfl, fun _ _ => rfl, fun _ => rfl⟩
  have hadd : ∀ i, (Driver.i2cAdd config i).Only fun op => driverLockUse lock op = .free := by
    intro i
    refine only_perform_bind.mpr ⟨rfl, fun _ => only_perform_bind.mpr ⟨rfl, fun answer => ?_⟩⟩
    cases answer with
    | error code => trivial
    | ok done =>
        refine only_perform_bind.mpr ⟨rfl, fun _ => ?_⟩
        exact Only.bind (only_hwinit (upkeep_of_on_bus hbus)) fun _ => trivial
  induction n generalizing i with
  | zero => trivial
  | succ n ih =>
      refine Only.bind (hadd i) fun err => ?_
      rw [only_ite]
      exact ⟨fun _ => trivial, fun _ => ih (i + 1)⟩

/-- Every way out of the registration of the masters gives the mutex back. -/
theorem i2c_init_disciplined (config : DriverConfig) (lock : Mutex) :
    (Driver.i2cInit config).Disciplined (driverLockUse lock) := by
  have hunlock : ∀ err : Int, (Driver.mutexUnlock .devLock >>= fun _ => pure err).Locks
      (driverLockUse lock) (fun _ after => after = false) (false || decide (.devLock = lock)) :=
    fun _ => locks_driver_unlock (fun _ => rfl) (locks_pure.mpr rfl)
  refine locks_driver_lock (fun _ => rfl) ?_
  refine locks_free_bind ((only_perform _).mpr rfl) fun found => ?_
  refine locks_ite.mpr ⟨fun _ => hunlock _, fun _ => ?_⟩
  exact locks_free_bind (i2c_add_all_free config lock _ 0) hunlock

/-- So does their removal. -/
theorem i2c_exit_disciplined (lock : Mutex) :
    Driver.i2cExit.Disciplined (driverLockUse lock) := by
  refine locks_driver_lock (fun _ => rfl) (locks_free_bind ?_ fun _ => ?_)
  · refine Only.loop (fun i _ _ => ?_) ()
    exact (only_perform _).mpr rfl
  · refine locks_free_bind ((only_perform _).mpr rfl) fun _ => ?_
    have hend : (Driver.mutexUnlock .devLock >>= pure).Locks (driverLockUse lock)
        (fun _ after => after = false) (false || decide (.devLock = lock)) :=
      locks_driver_unlock (fun _ => rfl) (locks_pure.mpr rfl)
    rwa [bind_pure] at hend

/-! ## The discipline -/

/-- A call of one of the functions that take a mutex. -/
inductive LockedCall where
  | ts2dtlInit (config : TsConfig) (stream : Stream) (pages : Nat)
  | ts2dtlAcquire (stream : Stream)
  | i2cInit (config : DriverConfig)
  | i2cExit
  | i2cXfer (i2c : I2c) (msgs : List I2cMsg)
  | startFeed (dvb : Dvb)
  | stopFeed (dvb : Dvb)

/-- Whatever is answered to it, the call takes no mutex twice, gives none back that it does not
hold, and returns without any. -/
def LockedCall.Disciplined : LockedCall → Prop
  | .ts2dtlInit config stream pages =>
      ∀ lock, (Saa7231.ts2dtlInit config stream pages).Disciplined (boardLockUse lock)
  | .ts2dtlAcquire stream => ∀ lock, (Saa7231.ts2dtlAcquire stream).Disciplined (boardLockUse lock)
  | .i2cInit config => ∀ lock, (Driver.i2cInit config).Disciplined (driverLockUse lock)
  | .i2cExit => ∀ lock, Driver.i2cExit.Disciplined (driverLockUse lock)
  | .i2cXfer i2c msgs => (Saa7231.i2cXfer i2c msgs).Disciplined i2cLockUse
  | .startFeed dvb => ∀ lock, (Saa7231.startFeed dvb).Disciplined (boardLockUse lock)
  | .stopFeed dvb => ∀ lock, (Saa7231.stopFeed dvb).Disciplined (boardLockUse lock)

/-- An initialisation gets a port that it knows, an acquire complete parameters. -/
def LockedCall.Accepted : LockedCall → Prop
  | .ts2dtlInit _ stream _ => stream.portId ∈ ts2dtlPorts
  | .ts2dtlAcquire stream => stream.params.valid
  | _ => True

/-- A call keeps the lock discipline exactly when its arguments are accepted. -/
theorem disciplined_iff_accepted (call : LockedCall) : call.Disciplined ↔ call.Accepted := by
  cases call with
  | ts2dtlInit config stream pages =>
      constructor
      · intro h
        by_contra hport
        exact ts2dtl_init_keeps_lock hport config pages (h .devLock)
      · exact fun hport => ts2dtl_init_disciplined hport config pages
  | ts2dtlAcquire stream =>
      constructor
      · intro h
        by_contra hvalid
        exact ts2dtl_acquire_unlocks hvalid (h .devLock)
      · exact fun hvalid lock => ts2dtl_acquire_keeps hvalid fun _ => rfl
  | i2cInit config => exact iff_of_true (i2c_init_disciplined config) trivial
  | i2cExit => exact iff_of_true i2c_exit_disciplined trivial
  | i2cXfer i2c msgs => exact iff_of_true (i2c_xfer_disciplined i2c msgs) trivial
  | startFeed dvb => exact iff_of_true (start_feed_disciplined dvb) trivial
  | stopFeed dvb => exact iff_of_true (stop_feed_disciplined dvb) trivial

/-- A stream in `kzalloc`ed memory has port 0, which the engine does not know, and no parameters. -/
theorem zero_stream_undisciplined :
    ¬ (LockedCall.ts2dtlInit ⟨0, 0, 0, 0⟩ (.zero 0 .digitalCapture) 16).Disciplined ∧
      ¬ (LockedCall.ts2dtlAcquire (.zero 0 .digitalCapture)).Disciplined := by
  constructor
  · exact fun h => ts2dtl_init_keeps_lock (by decide) _ _ (h .devLock)
  · exact fun h => ts2dtl_acquire_unlocks (by decide) (h .devLock)

end Saa7231
