import Saa7231.Interaction.Detection
import Saa7231.Stream.InitFailure

/-!
# An initialisation notices what fails

`streamInit` returns `NULL` exactly if one of its requests is rejected, or the number of the stream
is none of the two (`stream_init_detects`, `stream_init_numbers`). A scatterlist that is mapped to
no segment is refused, but the code tests for a negative result and goes on.
-/

namespace Saa7231

open Interaction Bus

/-- A request whose answer the code takes for a failure. -/
def rejected : Exchange (BusOp BoardOp) (BusAns BoardAns) → Bool
  | ⟨.extra (.dmaMapSg _ _), answer⟩ =>
      match (show Except Nat (List (BitVec 64 × Nat)) from answer) with
      | .ok _ => false
      | .error _ => true
  | step => refused step

/-- The program fails exactly on a rejected request. -/
abbrev Notices {α : Type} (bad good : α → Prop) (program : BoardProgram α) : Prop :=
  program.Detects (fun step => rejected step = true) bad good

/-! ## Single requests -/

section Requests

variable {bad good : Option Nat → Prop}

/-- A request is refused, or granted with any handle. -/
theorem forall_granted :
    (∀ answer : Option Nat, (answer.isNone = true → bad answer) ∧
      (¬ answer.isNone = true → good answer)) ↔ bad none ∧ ∀ handle, good (some handle) := by
  simp [Option.forall]

@[simp] theorem notices_kzalloc :
    Notices bad good kzalloc ↔ bad none ∧ ∀ handle, good (some handle) := forall_granted

@[simp] theorem notices_get_free_page :
    Notices bad good getFreePage ↔ bad none ∧ ∀ page, good (some page) := forall_granted

@[simp] theorem notices_vmalloc {size : BitVec 64} :
    Notices bad good (vmalloc size) ↔ bad none ∧ ∀ memory, good (some memory) := forall_granted

@[simp] theorem notices_dma_map_single {page : Nat} {bad good : BitVec 64 → Prop} :
    Notices bad good (dmaMapSingle page) ↔ bad 0 ∧ ∀ address, address ≠ 0 → good address := by
  show (∀ address : BitVec 64, ((address == 0) = true → bad address) ∧
    (¬ (address == 0) = true → good address)) ↔ _
  simp only [beq_iff_eq, forall_and, forall_eq]

@[simp] theorem notices_dma_map_sg {list pages : Nat}
    {bad good : Except Nat (List (BitVec 64 × Nat)) → Prop} :
    Notices bad good (dmaMapSg list pages) ↔
      (∀ code, bad (.error code)) ∧ ∀ segments, good (.ok segments) := by
  constructor
  · exact fun h => ⟨fun code => (h (.error code)).1 rfl, fun segments => (h (.ok segments)).2 nofun⟩
  · rintro ⟨hbad, hgood⟩ (code | segments)
    · exact ⟨fun _ => hbad code, fun hgoes => absurd rfl hgoes⟩
    · exact ⟨nofun, fun _ => hgood segments⟩

end Requests

/-- Operations that are no requests. -/
theorem notices_of_touches {α : Type} {bad good : α → Prop} {program : BoardProgram α}
    {A : Nat → Prop} {R : List Record} (honly : program.Only (Touches A R)) (hout : .ledger ∉ R)
    (hyields : program.Yields good) : Notices bad good program := by
  refine Program.detects_of_only (honly.mono fun op hop answer => ?_) hyields
  cases op with
  | extra op => cases op <;> first | exact Bool.false_ne_true | exact absurd (hop _ rfl) hout
  | _ => exact Bool.false_ne_true

@[simp] theorem notices_bug_on {condition : Bool} {bad good : Unit → Prop} :
    Notices bad good (bugOn condition) ↔ good () := by
  cases condition with
  | false => exact Iff.rfl
  | true => exact ⟨fun h => (h ()).2 Bool.false_ne_true, fun h _ => ⟨nofun, fun _ => h⟩⟩

@[simp] theorem notices_store_behind {page : Option Nat} {words : List (Nat × BitVec 32)}
    {bad good : Unit → Prop} : Notices bad good (storeBehind page words) ↔ good () := by
  cases words with
  | nil => exact Iff.rfl
  | cons word words =>
      exact ⟨fun h => (h ()).2 Bool.false_ne_true, fun h _ => ⟨nofun, fun _ => h⟩⟩

/-! ## Buffers -/

/-- The page table is allocated, or the error returned. -/
theorem notices_allocate_ptable (dmabuf : Dmabuf) :
    Notices (fun result => result.1 < 0) (fun result => result.1 = 0) (allocatePtable dmabuf) := by
  simp [allocatePtable, enomem]

/-- So is the scatterlist. -/
theorem notices_dmabuf_sgalloc (dmabuf : Dmabuf) (pages : Nat) :
    Notices (fun result => result.1 < 0)
      (fun result => result.1 = 0 ∧ result.2.sgList.isSome = true)
      (dmabufSgalloc dmabuf pages) := by
  simp [dmabufSgalloc, enomem]

/-- Every error of an allocation is passed on. -/
theorem notices_dmabuf_alloc (dmabuf : Dmabuf) (size : Nat) :
    Notices (fun result => result.1 < 0) (fun result => result.1 = 0)
      (dmabufAlloc dmabuf size) := by
  unfold dmabufAlloc
  refine Program.detects_bind.mpr (notices_bug_on.mpr ?_)
  dsimp only
  refine Program.detects_bind.mpr ((notices_allocate_ptable _).mono ?_ ?_)
  · rintro ⟨ret, failed⟩ hret
    exact (Program.yields_ite _ _ _).mpr ⟨fun _ => hret, fun hzero => absurd hret (by simp_all)⟩
  · rintro ⟨_, tabled⟩ rfl
    refine Program.detects_ite.mpr ⟨fun hne => absurd rfl hne, fun _ => ?_⟩
    refine Program.detects_bind.mpr ((notices_dmabuf_sgalloc _ _).mono ?_ ?_)
    · rintro ⟨ret, failed⟩ hret
      refine (Program.yields_ite _ _ _).mpr ⟨fun _ => ?_, fun hzero => absurd hret (by simp_all)⟩
      exact Program.yields_bind.mpr (Program.Yields.of_forall fun _ => hret)
    · rintro ⟨_, listed⟩ ⟨rfl, hlisted⟩
      refine Program.detects_ite.mpr ⟨fun hne => absurd rfl hne, fun _ => ?_⟩
      obtain ⟨sgList, hsgList⟩ := Option.isSome_iff_exists.mp hlisted
      have hlist : listed.sgList = some sgList := hsgList
      simp only [hlist, Program.detects_bind, notices_dma_map_sg, Program.yields_bind,
        Program.yields_pure, Program.detects_pure, dmabufSgpagefill, notices_bug_on,
        notices_store_behind, implies_true, and_true]
      exact fun code => Program.Yields.of_forall fun _ => Program.Yields.of_forall fun _ =>
        Int.negSucc_lt_zero code

/-- The buffers stop at the first that fails. -/
theorem notices_alloc_buffers (pages i n : Nat) :
    Notices (fun result => result.1 < 0) (fun result => result.1 = 0)
      (allocBuffers pages i n) := by
  induction n generalizing i with
  | zero => rfl
  | succ n ih =>
      refine Program.detects_bind.mpr ((notices_dmabuf_alloc _ _).mono ?_ ?_)
      · rintro ⟨ret, failed⟩ hret
        exact (Program.yields_ite _ _ _).mpr ⟨fun _ => by simp [enomem], fun hge => absurd hret hge⟩
      · rintro ⟨_, allocated⟩ rfl
        refine Program.detects_ite.mpr ⟨fun hlt => absurd hlt (lt_irrefl 0), fun _ => ?_⟩
        exact Program.detects_bind.mpr ((ih (i + 1)).mono (fun _ hret => hret) fun _ hret => hret)

/-! ## Streams -/

/-- Both numbers of either type name a port with a configuration. -/
theorem ts2dtl_configure_some (config : TsConfig) (stream : Stream) {adapType : AdapterType}
    {count : Nat} (hcount : count < 2) (hport : stream.portId = adapType.tsPort count) :
    (ts2dtlConfigure config stream).isSome = true := by
  unfold ts2dtlConfigure
  dsimp only
  rw [hport]
  obtain rfl | rfl : count = 0 ∨ count = 1 := by omega
  all_goals cases adapType <;> rfl

/-- On a known port the initialisation notices every refusal. -/
theorem notices_ts2dtl_init (config : TsConfig) (stream : Stream) (pages : Nat)
    (hconfigured : (ts2dtlConfigure config stream).isSome = true) :
    Notices (fun result => result.1 < 0) (fun result => result.1 = 0)
      (ts2dtlInit config stream pages) := by
  have hunlock : ∀ {α : Type} {value : α} {bad : α → Prop}, bad value →
      (mutexUnlock .devLock >>= fun _ => pure value : BoardProgram α).Yields bad :=
    fun hbad _ => hbad
  have herror : -enomem < 0 := by decide
  obtain ⟨configured, hsome⟩ := Option.isSome_iff_exists.mp hconfigured
  unfold ts2dtlInit
  refine fun _ => ⟨nofun, fun _ => ?_⟩
  simp only [hsome]
  refine Program.detects_bind.mpr (notices_kzalloc.mpr ⟨hunlock herror, fun array => ?_⟩)
  show Notices _ _ (allocBuffers pages 0 ringsiz >>= _)
  refine Program.detects_bind.mpr ((notices_alloc_buffers _ _ _).mono ?_ ?_)
  · rintro ⟨ret, buffers⟩ hret
    exact (Program.yields_ite _ _ _).mpr ⟨fun _ => hunlock herror, fun hge => absurd hret hge⟩
  · rintro ⟨_, buffers⟩ rfl
    refine Program.detects_ite.mpr ⟨fun hlt => absurd hlt (lt_irrefl 0), fun _ => ?_⟩
    refine Program.detects_bind.mpr (notices_kzalloc.mpr ⟨hunlock herror, fun ringHandle => ?_⟩)
    show Notices _ _ (initPtables _ >>= _)
    refine notices_of_touches (A := fun _ => True) (R := []) ?_ (by simp) ?_
    · refine Program.Only.bind (only_init_ptables fun _ _ => trivial) fun tabled => ?_
      refine Program.Only.bind (only_close_gates _ fun _ _ => trivial) fun _ => ?_
      exact ⟨nofun, fun _ => trivial⟩
    · refine Program.yields_bind.mpr (Program.Yields.of_forall fun _ => ?_)
      exact Program.yields_bind.mpr (Program.Yields.of_forall fun _ _ => rfl)

/-- An initialisation of one of the two streams fails exactly on a rejected request. -/
theorem notices_stream_init (config : TsConfig) (adapType : AdapterType) (pages : Nat) {count : Nat}
    (hcount : count < 2) :
    Notices (fun result => result = none) (fun result => result.isSome = true)
      (streamInit config .digitalCapture adapType count pages) := by
  refine Program.detects_bind.mpr (notices_kzalloc.mpr ⟨rfl, fun handle => ?_⟩)
  show Notices _ _ (streamInitDigital config _ adapType count pages)
  unfold streamInitDigital
  refine Program.detects_ite.mpr ⟨fun hle => absurd hcount (by omega), fun _ => ?_⟩
  refine Program.detects_bind.mpr
    ((notices_ts2dtl_init _ _ _ (ts2dtl_configure_some _ _ hcount rfl)).mono ?_ ?_)
  · rintro ⟨ret, stream⟩ hret
    exact (Program.yields_ite _ _ _).mpr ⟨fun _ => rfl, fun hzero => absurd hret (by simp_all)⟩
  · rintro ⟨_, stream⟩ rfl
    refine Program.detects_ite.mpr ⟨fun hne => absurd rfl hne, fun _ => ?_⟩
    refine notices_of_touches (A := fun _ => True) (R := [.overruns]) ?_ (by simp) ?_
    · refine Program.Only.bind (only_acquire (Or.inr (by simp)) fun _ _ => trivial)
        fun acquired => ?_
      rw [Program.only_ite]
      exact ⟨fun _ => trivial, fun _ => trivial⟩
    · refine Program.yields_bind.mpr ((acquire_reports_success _).mono fun acquired hret => ?_)
      rw [Program.yields_ite]
      exact ⟨fun hlt => absurd hlt (by simp [hret]), fun _ => rfl⟩

/-- There is no third stream. -/
theorem stream_init_third (config : TsConfig) (adapType : AdapterType) (pages : Nat) {count : Nat}
    (hcount : 2 ≤ count) :
    (streamInit config .digitalCapture adapType count pages).Yields
      fun result => result = none := by
  refine Program.yields_bind.mpr (Program.Yields.of_forall fun handle => ?_)
  cases handle with
  | none => rfl
  | some handle =>
      show (streamInitDigital config _ adapType count pages).Yields _
      unfold streamInitDigital
      rw [Program.yields_ite]
      exact ⟨fun _ => rfl, fun hlt => absurd hcount hlt⟩

end Saa7231
