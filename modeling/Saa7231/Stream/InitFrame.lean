import Saa7231.Interaction.Ownership
import Saa7231.Stream.FreshStream

/-!
# What an initialisation leaves alone

Whether it succeeds or fails, `streamInit` releases only resources that it acquired itself, so
everything that was live before stays live (`stream_init_grows`), and it writes only registers
of its own port and engine (`only_stream_init`).
-/

namespace Saa7231

open Interaction Bus

/-- The resources that the operations of the board grant and release. A scatterlist may be
mapped again, so its mapping counts as granted to nobody. -/
def boardTenure : Tenure (BusOp BoardOp) (BusAns BoardAns) Resource where
  granted op answer := match op, answer with
    | .extra .kzalloc, (handle : Option Nat) => handle.map .kmem
    | .extra .getFreePage, (handle : Option Nat) => handle.map .page
    | .extra (.vmalloc _), (handle : Option Nat) => handle.map .vmem
    | .extra (.dmaMapSingle _), (address : BitVec 64) =>
        if address = 0 then none else some (.single address)
    | _, _ => none
  released op := match op with
    | .extra (.release resource) => some resource
    | _ => none

section Tenure

variable {env : Environment} {board : Board}

/-- Only resources that are not live are granted. -/
theorem granted_fresh (op : BusOp BoardOp) (resource : Resource)
    (h : boardTenure.granted op ((boardWorld env).answer op board) = some resource) :
    ¬ board.live resource = true := by
  have hkind : ∀ kind : Nat → Resource, (board.grant env kind).map kind = some resource →
      ¬ board.live resource = true := by
    intro kind hmap
    obtain ⟨handle, hgrant, rfl⟩ := Option.map_eq_some_iff.mp hmap
    rw [Board.grant_fresh hgrant]
    exact Bool.false_ne_true
  cases op with
  | rd | wr | delay => cases h
  | extra op =>
      cases op with
      | kzalloc => exact hkind _ h
      | getFreePage => exact hkind _ h
      | vmalloc size =>
          obtain ⟨handle, hgrant, rfl⟩ := Option.map_eq_some_iff.mp
            (show (board.grantArea env size).map .vmem = some resource from h)
          rw [Board.grant_area_fresh hgrant]
          exact Bool.false_ne_true
      | dmaMapSingle =>
          have hgranted : (if board.grantAddress env = 0 then none
              else some (Resource.single (board.grantAddress env))) = some resource := h
          split at hgranted
          next => cases hgranted
          next hnonzero =>
              cases hgranted
              rw [Board.grant_address_fresh hnonzero]
              exact Bool.false_ne_true
      | _ => cases h

/-- A resource stays live until it is released. -/
theorem live_after (op : BusOp BoardOp) (resource : Resource) (hlive : board.live resource = true)
    (hkept : boardTenure.released op ≠ some resource) :
    ((boardWorld env).after op board).live resource = true := by
  cases op with
  | rd | wr | delay => exact hlive
  | extra op =>
      cases op with
      | kzalloc => exact board.acquire_grows _ resource hlive
      | getFreePage => exact board.acquire_grows _ resource hlive
      | vmalloc => exact board.acquire_grows _ resource hlive
      | dmaMapSingle => exact board.acquire_grows _ resource hlive
      | dmaMapSg => exact board.acquire_grows _ resource hlive
      | release released =>
          have hne : resource ≠ released := fun heq => hkept (congrArg some heq.symm)
          exact (Function.update_of_ne hne _ _).trans hlive
      | _ => exact hlive

/-- A program that releases only its own resources keeps everything that was live. -/
theorem grows_of_owns {α : Type} {program : BoardProgram α}
    (h : program.Owns boardTenure (fun _ _ => True) []) :
    board.Grows (program.run (boardWorld env) board).2 := by
  intro resource hlive
  exact h.keeps (fun (board : Board) resource => board.live resource = true)
    (fun op board resource => granted_fresh op resource)
    (fun op board resource => live_after op resource) hlive List.not_mem_nil

end Tenure

/-! ## Initialisation releases only its own resources -/

section Owns

variable {α : Type} {Q : α → List Resource → Prop} {owned : List Resource}

/-- Memory that is granted is owned from then on. -/
theorem owns_kzalloc_bind (f : Option Nat → BoardProgram α) :
    (kzalloc >>= f).Owns boardTenure Q owned ↔
      ∀ handle, (f handle).Owns boardTenure Q ((handle.map Resource.kmem).toList ++ owned) :=
  ⟨fun h => h.2, fun h => ⟨nofun, h⟩⟩

/-- So is a page. -/
theorem owns_get_free_page_bind (f : Option Nat → BoardProgram α) :
    (getFreePage >>= f).Owns boardTenure Q owned ↔
      ∀ page, (f page).Owns boardTenure Q ((page.map Resource.page).toList ++ owned) :=
  ⟨fun h => h.2, fun h => ⟨nofun, h⟩⟩

/-- So is a large area. -/
theorem owns_vmalloc_bind (size : BitVec 64) (f : Option Nat → BoardProgram α) :
    (vmalloc size >>= f).Owns boardTenure Q owned ↔
      ∀ memory, (f memory).Owns boardTenure Q ((memory.map Resource.vmem).toList ++ owned) :=
  ⟨fun h => h.2, fun h => ⟨nofun, h⟩⟩

/-- So is a mapping, unless its address is zero. -/
theorem owns_dma_map_single_bind (page : Nat) (f : BitVec 64 → BoardProgram α) :
    (dmaMapSingle page >>= f).Owns boardTenure Q owned ↔
      ∀ address, (f address).Owns boardTenure Q
        ((if address = 0 then none else some (Resource.single address)).toList ++ owned) :=
  ⟨fun h => h.2, fun h => ⟨nofun, h⟩⟩

/-- The mapping of a scatterlist is not in the ledger. -/
theorem owns_dma_map_sg_bind (list pages : Nat)
    (f : Except Nat (List (BitVec 64 × Nat)) → BoardProgram α) :
    (dmaMapSg list pages >>= f).Owns boardTenure Q owned ↔
      ∀ segments, (f segments).Owns boardTenure Q owned :=
  ⟨fun h => h.2, fun h => ⟨nofun, h⟩⟩

/-- A release takes what is owned. -/
theorem owns_release {Q : Unit → List Resource → Prop} (resource : Resource) :
    (release resource).Owns boardTenure Q owned ↔ resource ∈ owned ∧ Q () owned := by
  constructor
  · intro h
    exact ⟨h.1 resource rfl, h.2 ()⟩
  · rintro ⟨hmem, hQ⟩
    refine ⟨fun released heq => ?_, fun _ => hQ⟩
    cases heq
    exact hmem

/-- A check takes nothing. -/
theorem owns_bug_on {Q : Unit → List Resource → Prop} (condition : Bool) :
    (bugOn condition).Owns boardTenure Q owned ↔ Q () owned := by
  cases condition with
  | false => exact Iff.rfl
  | true => exact ⟨fun h => h.2 (), fun h => ⟨nofun, fun _ => h⟩⟩

/-- A store behind a page releases nothing. -/
theorem owns_store_behind {Q : Unit → List Resource → Prop} (page : Option Nat)
    (words : List (Nat × BitVec 32)) :
    (storeBehind page words).Owns boardTenure Q owned ↔ Q () owned := by
  cases words with
  | nil => exact Iff.rfl
  | cons word words => exact ⟨fun h => h.2 (), fun h => ⟨nofun, fun _ => h⟩⟩

/-- A pointer that may be `NULL` is released if it is owned. -/
theorem owns_release_some {Q : Unit → List Resource → Prop} (resource : Option Resource) :
    (releaseSome resource).Owns boardTenure Q owned ↔
      (∀ released, resource = some released → released ∈ owned) ∧ Q () owned := by
  cases resource with
  | none => exact ⟨fun h => ⟨nofun, h⟩, fun h => h.2⟩
  | some resource =>
      rw [releaseSome, owns_release]
      simp

/-- A page table that is allocated is owned. -/
theorem owns_allocate_ptable (dmabuf : Dmabuf) {Q : Int × Dmabuf → List Resource → Prop}
    (hfailed : ∀ owned', Q (-enomem, dmabuf) owned')
    (hdone : ∀ virt phys owned', Resource.page virt ∈ owned' → Resource.single phys ∈ owned' →
      Q (0, { dmabuf with ptPhys := phys, ptVirt := some virt }) owned') :
    (allocatePtable dmabuf).Owns boardTenure Q owned := by
  unfold allocatePtable
  rw [owns_get_free_page_bind]
  intro page
  cases page with
  | none => exact hfailed _
  | some virt =>
      show (dmaMapSingle virt >>= _).Owns boardTenure Q _
      rw [owns_dma_map_single_bind]
      intro phys
      rw [Program.owns_ite]
      refine ⟨fun _ => hfailed _, fun hphys => ?_⟩
      rw [Program.owns_bind, owns_bug_on, Program.owns_pure]
      rw [if_neg hphys]
      exact hdone virt phys _ (by simp) (by simp)

/-- A scatterlist and its memory are owned, beside what was owned before. -/
theorem owns_dmabuf_sgalloc (dmabuf : Dmabuf) (pages : Nat)
    {Q : Int × Dmabuf → List Resource → Prop}
    (hfailed : ∀ owned', owned ⊆ owned' → Q (-enomem, dmabuf) owned')
    (hdone : ∀ handle mem owned', owned ⊆ owned' → Resource.kmem handle ∈ owned' →
      Resource.vmem mem ∈ owned' →
      Q (0, { dmabuf with
        sgList := some ⟨handle, List.replicate pages ⟨saa7231PageSize, 0⟩⟩
        virt := some mem, vmalloc := some mem, pages := pages }) owned') :
    (dmabufSgalloc dmabuf pages).Owns boardTenure Q owned := by
  unfold dmabufSgalloc
  rw [Program.owns_bind, owns_bug_on, owns_kzalloc_bind]
  intro list
  cases list with
  | none => exact hfailed _ (List.subset_append_right _ _)
  | some handle =>
      show (vmalloc (vmallocSize pages) >>= _).Owns boardTenure Q _
      rw [owns_vmalloc_bind]
      intro memory
      cases memory with
      | none => exact hfailed _ fun _ h => by simp [h]
      | some mem =>
          show (bugOn _ >>= _).Owns boardTenure Q _
          rw [Program.owns_bind, owns_bug_on, Program.owns_pure]
          exact hdone handle mem _ (fun _ h => by simp [h]) (by simp) (by simp)

/-- The page table is released with its mapping. -/
theorem owns_free_ptable (dmabuf : Dmabuf) {Q : Unit → List Resource → Prop}
    (hsingle : Resource.single dmabuf.ptPhys ∈ owned)
    (hpage : ∀ virt, dmabuf.ptVirt = some virt → Resource.page virt ∈ owned) (hQ : Q () owned) :
    (freePtable dmabuf).Owns boardTenure Q owned := by
  unfold freePtable
  rw [Program.owns_bind, owns_release_some]
  refine ⟨fun released heq => ?_, ?_⟩
  · split at heq
    next => exact Option.some.inj heq ▸ hsingle
    next => cases heq
  · rw [owns_release_some]
    refine ⟨fun released heq => ?_, hQ⟩
    obtain ⟨virt, hvirt, rfl⟩ := Option.map_eq_some_iff.mp heq
    exact hpage virt hvirt

/-- The scatterlist is released with its memory. -/
theorem owns_dmabuf_sgfree (dmabuf : Dmabuf) {Q : Dmabuf → List Resource → Prop}
    (hmemory : ∀ mem, dmabuf.vmalloc = some mem → Resource.vmem mem ∈ owned)
    (hlist : ∀ sgList, dmabuf.sgList = some sgList → Resource.kmem sgList.handle ∈ owned)
    (hQ : Q { dmabuf with virt := none } owned) :
    (dmabufSgfree dmabuf).Owns boardTenure Q owned := by
  unfold dmabufSgfree
  rw [Program.owns_bind, owns_bug_on, Program.owns_bind, owns_release_some]
  refine ⟨fun released heq => ?_, ?_⟩
  · split at heq
    next =>
        obtain ⟨mem, hmem, rfl⟩ := Option.map_eq_some_iff.mp heq
        exact hmemory mem hmem
    next => cases heq
  · rw [Program.owns_bind, owns_release_some]
    refine ⟨fun released heq => ?_, hQ⟩
    obtain ⟨sgList, hsgList, rfl⟩ := Option.map_eq_some_iff.mp heq
    exact hlist sgList hsgList

/-- Operations that touch no resources release none. -/
theorem owns_of_touches {program : BoardProgram α} {A : Nat → Prop} {R : List Record}
    (honly : program.Only (Touches A R)) (hout : Record.ledger ∉ R)
    (hQ : ∀ value owned, Q value owned) : program.Owns boardTenure Q owned := by
  refine Program.owns_of_only (honly.mono fun op hop => ?_) hQ
  cases op with
  | extra op => cases op <;> first | rfl | exact absurd (hop _ rfl) hout
  | _ => rfl

/-- A failed allocation takes down what it had built and nothing else. -/
theorem owns_dmabuf_alloc (dmabuf : Dmabuf) (size : Nat) :
    (dmabufAlloc dmabuf size).Owns boardTenure (fun _ _ => True) owned := by
  unfold dmabufAlloc
  rw [Program.owns_bind, owns_bug_on, Program.owns_bind]
  refine owns_allocate_ptable _ (fun _ => ?_) fun virt phys owned' hpage hsingle => ?_
  · simp [enomem]
  · simp only [ne_eq, not_true_eq_false, if_false, Program.owns_bind]
    refine owns_dmabuf_sgalloc _ size (fun owned'' hsub => ?_)
      fun handle mem owned'' hsub hlist hmem => ?_
    · -- Without memory only the page table is taken down.
      have hret : ¬ -enomem = 0 := by decide
      simp only [hret, not_false_eq_true, if_true, Program.owns_bind]
      refine owns_free_ptable _ (hsub hsingle) (fun _ heq => ?_) trivial
      cases heq
      exact hsub hpage
    · simp only [not_true_eq_false, if_false]
      rw [owns_dma_map_sg_bind]
      intro segments
      cases segments with
      | error code =>
          -- Without a mapping the scatterlist goes first, then the page table.
          show (dmabufSgfree _ >>= _).Owns boardTenure _ owned''
          rw [Program.owns_bind]
          refine owns_dmabuf_sgfree _ (fun _ heq => ?_) (fun _ heq => ?_) ?_
          · cases heq
            exact hmem
          · cases heq
            exact hlist
          · rw [Program.owns_bind]
            refine owns_free_ptable _ (hsub hsingle) (fun _ heq => ?_) trivial
            cases heq
            exact hsub hpage
      | ok segments =>
          show (dmabufSgpagefill _ _ segments 0 >>= _).Owns boardTenure _ owned''
          unfold dmabufSgpagefill
          simp only [Program.owns_bind, owns_bug_on, owns_store_behind, Program.owns_pure]

/-- The allocation of the buffers unwinds what it owns. -/
theorem owns_alloc_buffers (pages i n : Nat) :
    (allocBuffers pages i n).Owns boardTenure (fun _ _ => True) owned := by
  induction n generalizing i owned with
  | zero => trivial
  | succ n ih =>
      unfold allocBuffers
      rw [Program.owns_bind]
      refine (owns_dmabuf_alloc _ _).mono fun first owned _ => ?_
      rw [Program.owns_ite]
      refine ⟨fun _ => trivial, fun _ => ?_⟩
      rw [Program.owns_bind]
      exact (ih (i + 1)).mono fun _ _ _ => trivial

/-- So does the initialisation of the engine. -/
theorem owns_ts2dtl_init (config : TsConfig) (stream : Stream) (pages : Nat) :
    (ts2dtlInit config stream pages).Owns boardTenure (fun _ _ => True) owned := by
  have hunlock : ∀ (α : Type) (value : α) (owned : List Resource),
      (mutexUnlock .devLock >>= fun _ => pure value : BoardProgram α).Owns boardTenure
        (fun _ _ => True) owned := fun _ _ _ => ⟨nofun, fun _ => trivial⟩
  unfold ts2dtlInit
  refine ⟨nofun, fun _ => ?_⟩
  cases ts2dtlConfigure config stream with
  | none => trivial
  | some configured =>
      show (kzalloc >>= _).Owns boardTenure _ _
      rw [owns_kzalloc_bind]
      intro array
      cases array with
      | none => exact hunlock _ _ _
      | some array =>
          show (allocBuffers pages 0 ringsiz >>= _).Owns boardTenure _ _
          rw [Program.owns_bind]
          refine (owns_alloc_buffers pages 0 ringsiz).mono fun buffers owned _ => ?_
          rw [Program.owns_ite]
          refine ⟨fun _ => hunlock _ _ _, fun _ => ?_⟩
          rw [owns_kzalloc_bind]
          intro ringHandle
          cases ringHandle with
          | none => exact hunlock _ _ _
          | some ringHandle =>
              show (initPtables _ >>= _).Owns boardTenure _ _
              rw [Program.owns_bind]
              refine owns_of_touches (A := fun _ => True) (R := [])
                (only_init_ptables fun _ _ => trivial) (by simp) fun tabled owned => ?_
              rw [Program.owns_bind]
              refine owns_of_touches (A := fun _ => True) (R := [])
                (only_close_gates _ fun _ _ => trivial) (by simp) fun _ owned => ?_
              exact hunlock _ _ _

/-- And that of the stream. -/
theorem owns_stream_init_digital (config : TsConfig) (stream : Stream) (adapType : AdapterType)
    (count pages : Nat) :
    (streamInitDigital config stream adapType count pages).Owns boardTenure (fun _ _ => True)
      owned := by
  unfold streamInitDigital
  rw [Program.owns_ite]
  refine ⟨fun _ => trivial, fun _ => ?_⟩
  rw [Program.owns_bind]
  refine (owns_ts2dtl_init _ _ _).mono fun engine owned _ => ?_
  rw [Program.owns_ite]
  refine ⟨fun _ => trivial, fun _ => ?_⟩
  rw [Program.owns_bind]
  refine owns_of_touches (A := fun _ => True) (R := [.overruns])
    (only_acquire (Or.inr (by simp)) fun _ _ => trivial) (by simp) fun acquired owned => ?_
  rw [Program.owns_ite]
  exact ⟨fun _ => trivial, fun _ => trivial⟩

/-- The whole initialisation of a transport stream releases only what it acquired. -/
theorem owns_stream_init (config : TsConfig) (adapType : AdapterType) (count pages : Nat) :
    (streamInit config .digitalCapture adapType count pages).Owns boardTenure (fun _ _ => True)
      owned := by
  unfold streamInit
  rw [owns_kzalloc_bind]
  intro handle
  cases handle with
  | none => trivial
  | some handle => exact owns_stream_init_digital config _ adapType count pages

end Owns

/-- Everything that was live before an initialisation is live after it. -/
theorem stream_init_grows (env : Environment) (board : Board) (config : TsConfig)
    (adapType : AdapterType) (count pages : Nat) :
    board.Grows ((streamInit config .digitalCapture adapType count pages).run (boardWorld env)
      board).2 :=
  grows_of_owns (owns_stream_init config adapType count pages)

/-! ## Initialisation writes only its own registers -/

/-- The initialisation keeps the port and the module. -/
theorem ts2dtl_init_yields (config : TsConfig) (stream : Stream) (pages : Nat) :
    (ts2dtlInit config stream pages).Yields fun result =>
      result.2.portId = stream.portId ∧ result.2.dtl.module = stream.dtl.module := by
  unfold ts2dtlInit
  rw [Program.yields_bind]
  refine Program.Yields.of_forall fun _ => ?_
  cases hconfigured : ts2dtlConfigure config stream with
  | none => exact ⟨rfl, rfl⟩
  | some configured =>
      obtain ⟨config', clk, rfl⟩ := ts2dtl_configure_cases config hconfigured
      rw [Program.yields_bind]
      refine Program.Yields.of_forall fun array => ?_
      cases array with
      | none => exact fun _ => ⟨rfl, rfl⟩
      | some array =>
          rw [Program.yields_bind]
          refine Program.Yields.of_forall fun buffers => ?_
          rw [Program.yields_ite]
          refine ⟨fun _ _ => ⟨rfl, rfl⟩, fun _ => ?_⟩
          rw [Program.yields_bind]
          refine Program.Yields.of_forall fun ringHandle => ?_
          cases ringHandle with
          | none => exact fun _ => ⟨rfl, rfl⟩
          | some ringHandle =>
              rw [Program.yields_bind]
              refine Program.Yields.mono init_ptables_yields ?_
              rintro _ rfl
              simp only [Program.yields_bind, Program.yields_pure]
              refine Program.Yields.of_forall fun _ => Program.Yields.of_forall fun _ => ?_
              exact ⟨rfl, rfl⟩

/-- The registers that the initialisation of a transport stream may write: those of its port
and engine, if there is an engine with its number. -/
theorem only_stream_init (config : TsConfig) (adapType : AdapterType) (count pages : Nat) :
    (streamInit config .digitalCapture adapType count pages).Only
      (Touches (fun address => count < 2 ∧
          Footprint (adapType.tsPort count) (adapType.tsModule count) address)
        [.ledger, .bugs, .overruns]) := by
  unfold streamInit
  rw [only_kzalloc_bind]
  refine ⟨by simp [BoardOp.record], fun handle => ?_⟩
  cases handle with
  | none => trivial
  | some handle =>
      show (streamInitDigital config _ adapType count pages).Only _
      unfold streamInitDigital
      rw [Program.only_ite]
      refine ⟨fun _ => trivial, fun hcount => ?_⟩
      have hnumber : count < 2 := Nat.not_le.mp hcount
      refine Program.Only.bind_yields ((only_ts2dtl_init _ _ _ fun address hin =>
        ⟨hnumber, Or.inr hin⟩).mono fun op hop => hop.mono (fun _ h => h) ?_)
        (ts2dtl_init_yields _ _ _) fun engine hengine => ?_
      · intro _ hrecord record hmem
        exact List.mem_append_left [Record.overruns] (hrecord record hmem)
      · obtain ⟨hportId, hmodule⟩ := hengine
        rw [Program.only_ite]
        refine ⟨fun _ => trivial, fun _ => ?_⟩
        refine Program.Only.bind (only_acquire (Or.inr (by simp)) fun address hin => ?_)
          fun acquired => ?_
        · refine ⟨hnumber, ?_⟩
          have hfootprint : Footprint engine.2.portId engine.2.dtl.module address := hin
          rwa [hportId, hmodule] at hfootprint
        · rw [Program.only_ite]
          exact ⟨fun _ => trivial, fun _ => trivial⟩

end Saa7231
