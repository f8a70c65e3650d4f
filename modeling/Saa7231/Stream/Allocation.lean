import Saa7231.Hardware.Acquisition
import Saa7231.Hardware.Frame
import Saa7231.Stream.PageTable

/-!
# What allocating and freeing a buffer does to the resources

A successful `dmabufAlloc` returns a buffer all of whose resources are live, at a bus address
that was not live before (`dmabuf_alloc_spec`); it takes no resource away. `dmabufFree`
leaves none of the resources of the buffer live (`dmabuf_free_dead`), and no release brings
one back.
-/

namespace Saa7231

open Interaction Bus

/-! ## The resources of a buffer -/

/-- What a buffer keeps allocated, in the order in which it is freed: its memory and its
scatterlist, the mapping of its page table and the page. -/
def Dmabuf.allocations (dmabuf : Dmabuf) : List Resource :=
  (dmabuf.vmalloc.map .vmem).toList ++
    (dmabuf.sgList.map fun sgList => .kmem sgList.handle).toList ++
    .single dmabuf.ptPhys :: (dmabuf.ptVirt.map .page).toList

/-- What a buffer owns: the mapping of its scatterlist comes first. -/
def Dmabuf.resources (dmabuf : Dmabuf) : List Resource :=
  (dmabuf.sgList.map fun sgList => .sg sgList.handle).toList ++ dmabuf.allocations

/-- A buffer with all its parts. -/
structure Dmabuf.Built (dmabuf : Dmabuf) : Prop where
  type : dmabuf.dmaType = .int
  page : dmabuf.ptVirt.isSome = true
  nonzero : dmabuf.ptPhys ≠ 0
  memory : dmabuf.vmalloc.isSome = true
  list : dmabuf.sgList.isSome = true

/-- The resources behind a buffer are live: its page-table page and its mapping, its memory
and its scatterlist. -/
structure Dmabuf.Allocated (dmabuf : Dmabuf) (board : Board) : Prop where
  type : dmabuf.dmaType = .int
  page : ∃ virt, dmabuf.ptVirt = some virt ∧ board.live (.page virt) = true
  nonzero : dmabuf.ptPhys ≠ 0
  mapping : board.live (.single dmabuf.ptPhys) = true
  memory : ∃ mem, dmabuf.vmalloc = some mem ∧ board.live (.vmem mem) = true
  list : ∃ sgList, dmabuf.sgList = some sgList ∧ board.live (.kmem sgList.handle) = true

/-- What is allocated stays so on a board that has grown. -/
theorem Dmabuf.Allocated.mono {dmabuf : Dmabuf} {board board' : Board}
    (h : dmabuf.Allocated board) (hgrows : board.Grows board') : dmabuf.Allocated board' := by
  obtain ⟨virt, hvirt, hpage⟩ := h.page
  obtain ⟨mem, hmem, hmemory⟩ := h.memory
  obtain ⟨sgList, hsgList, hlist⟩ := h.list
  exact ⟨h.type, ⟨virt, hvirt, hgrows _ hpage⟩, h.nonzero, hgrows _ h.mapping,
    ⟨mem, hmem, hgrows _ hmemory⟩, ⟨sgList, hsgList, hgrows _ hlist⟩⟩

section Alloc

variable (env : Environment) (board : Board)

@[simp] theorem live_bug_on (condition : Bool) :
    ((bugOn condition).run (boardWorld env) board).2.live = board.live := by
  cases condition <;> rfl

/-- A check releases nothing. -/
theorem released_bug_on (condition : Bool) :
    ((bugOn condition).run (boardWorld env) board).2.released = board.released := by
  cases condition <;> rfl

/-- A check that fails is counted. -/
theorem bugs_bug_on (condition : Bool) :
    ((bugOn condition).run (boardWorld env) board).2.bugs = board.bugs + condition.toNat := by
  cases condition <;> rfl

/-- A page table: a page, mapped for the device. -/
theorem allocate_ptable_spec (dmabuf : Dmabuf) {ret : Int} {dmabuf' : Dmabuf} {board' : Board}
    (hrun : (allocatePtable dmabuf).run (boardWorld env) board = ((ret, dmabuf'), board'))
    (hret : 0 ≤ ret) :
    ret = 0 ∧ ∃ virt phys, dmabuf' = { dmabuf with ptPhys := phys, ptVirt := some virt } ∧
      phys ≠ 0 ∧ board.Acquires board' [.single phys, .page virt] := by
  simp only [allocatePtable, Program.run_bind, run_get_free_page] at hrun
  cases hpage : board.grant env .page with
  | none =>
      simp only [hpage, Program.run_pure, Prod.mk.injEq] at hrun
      exact absurd hret (by rw [← hrun.1.1]; decide)
  | some virt =>
      simp only [hpage, Program.run_bind, run_dma_map_single, Program.run_ite,
        Program.run_pure, Option.map_some] at hrun
      have hpaged : board.Acquires (board.acquire (some (.page virt))) [.page virt] :=
        .single _ trivial (Board.grant_fresh hpage)
      generalize board.acquire (some (.page virt)) = paged at hrun hpaged
      by_cases hphys : paged.grantAddress env = 0
      · simp only [hphys, if_true, Prod.mk.injEq] at hrun
        exact absurd hret (by rw [← hrun.1.1]; decide)
      · simp only [hphys, if_false, Prod.mk.injEq] at hrun
        obtain ⟨⟨rfl, rfl⟩, rfl⟩ := hrun
        have hmapped := hpaged.trans
          (.single (.single _) trivial (Board.grant_address_fresh hphys))
        exact ⟨rfl, virt, _, rfl, hphys, hmapped.of_ledger rfl (live_bug_on env _ _)
          ((released_bug_on env _ _).trans hmapped.released)⟩

/-- A scatterlist and the memory behind it. -/
theorem dmabuf_sgalloc_spec (dmabuf : Dmabuf) (pages : Nat) {ret : Int} {dmabuf' : Dmabuf}
    {board' : Board}
    (hrun : (dmabufSgalloc dmabuf pages).run (boardWorld env) board = ((ret, dmabuf'), board'))
    (hret : 0 ≤ ret) :
    ret = 0 ∧ ∃ handle mem, dmabuf' = { dmabuf with
        sgList := some ⟨handle, List.replicate pages ⟨saa7231PageSize, 0⟩⟩
        virt := some mem, vmalloc := some mem, pages := pages } ∧
      board.Acquires board' [.vmem mem, .kmem handle] := by
  simp only [dmabufSgalloc, Program.run_bind, run_kzalloc] at hrun
  have hchecked : board.Acquires ((bugOn (pages == 0)).run (boardWorld env) board).2 [] :=
    .of_same (live_bug_on env _ _) (released_bug_on env _ _)
  generalize ((bugOn (pages == 0)).run (boardWorld env) board).2 = checked at hrun hchecked
  cases hlist : checked.grant env .kmem with
  | none =>
      simp only [hlist, Program.run_pure, Prod.mk.injEq] at hrun
      exact absurd hret (by rw [← hrun.1.1]; decide)
  | some handle =>
      simp only [hlist, Program.run_bind, run_vmalloc, Option.map_some] at hrun
      have hlisted := hchecked.trans (.single (.kmem handle) trivial (Board.grant_fresh hlist))
      generalize checked.acquire (some (.kmem handle)) = listed at hrun hlisted
      cases hmem : listed.grantArea env (vmallocSize pages) with
      | none =>
          simp only [hmem, Program.run_pure, Prod.mk.injEq] at hrun
          exact absurd hret (by rw [← hrun.1.1]; decide)
      | some mem =>
          simp only [hmem, Program.run_bind, Program.run_pure, Option.map_some,
            Prod.mk.injEq] at hrun
          obtain ⟨⟨rfl, rfl⟩, rfl⟩ := hrun
          have hfilled :=
            hlisted.trans (.single (.vmem mem) trivial (Board.grant_area_fresh hmem))
          exact ⟨rfl, handle, mem, rfl, hfilled.of_ledger rfl (live_bug_on env _ _)
            ((released_bug_on env _ _).trans hfilled.released)⟩

/-! ### The page table is filled without allocating -/

@[simp] theorem PageFill.offset_page (entry : SgEntry) (dma : BitVec 64) (fill : PageFill)
    (j : Nat) : (PageFill.page entry dma fill j).bufferOffset = fill.bufferOffset := by
  unfold PageFill.page
  split
  next => rfl
  next => exact fill.store_buffer_offset _

/-- Only the first segment sets the offset of the buffer, and a whole page sets it to
zero. -/
theorem PageFill.offset_segment (fill : PageFill) (i : Nat) (dma : BitVec 64 × Nat)
    (hoffset : fill.bufferOffset = 0) :
    (fill.segment i ⟨saa7231PageSize, 0⟩ dma).bufferOffset = 0 := by
  have hfold : ∀ (js : List Nat) (start : PageFill) (entry : SgEntry),
      (js.foldl (PageFill.page entry dma.1) start).bufferOffset = start.bufferOffset := by
    intro js
    induction js with
    | nil => exact fun _ _ => rfl
    | cons j js ih =>
        intro start entry
        rw [List.foldl_cons, ih, offset_page]
  unfold PageFill.segment
  rw [hfold]
  split
  next => rfl
  next => exact hoffset

/-- Entries that start at the beginning of their pages keep the buffer's offset at zero. -/
theorem PageFill.offset_segments {entries : List (SgEntry × (BitVec 64 × Nat))}
    (hentries : ∀ entry ∈ entries, entry.1 = ⟨saa7231PageSize, 0⟩) {fill : PageFill} (i : Nat)
    (hoffset : fill.bufferOffset = 0) : (fill.segments i entries).bufferOffset = 0 := by
  induction entries generalizing fill i with
  | nil => exact hoffset
  | cons entry rest ih =>
      obtain ⟨sgEntry, dma⟩ := entry
      have hentry : sgEntry = ⟨saa7231PageSize, 0⟩ := hentries _ List.mem_cons_self
      subst hentry
      exact ih (fun entry h => hentries entry (List.mem_cons_of_mem _ h)) (i + 1)
        (fill.offset_segment i dma hoffset)

/-- The padding of the table leaves the offset alone. -/
theorem PageFill.offset_pad (fill : PageFill) : fill.pad.bufferOffset = fill.bufferOffset := by
  have hfold : ∀ (ks : List Nat) (start : PageFill),
      (ks.foldl (fun fill _ => fill.store fill.addr) start).bufferOffset =
        start.bufferOffset := by
    intro ks
    induction ks with
    | nil => exact fun _ => rfl
    | cons k ks ih =>
        intro start
        rw [List.foldl_cons, ih, store_buffer_offset]
  exact hfold _ _

/-- Filling the page table of whole pages leaves the buffer at offset zero. Without a mapped
segment a `BUG_ON` is reached. -/
theorem dmabuf_sgpagefill_spec (dmabuf : Dmabuf) (pages : Nat)
    (segments : List (BitVec 64 × Nat)) {filled : Dmabuf} {board' : Board}
    (hrun : (dmabufSgpagefill dmabuf (List.replicate pages ⟨saa7231PageSize, 0⟩) segments 0).run
      (boardWorld env) board = (filled, board')) (hoffset : dmabuf.offset = 0) :
    filled = { dmabuf with offset := 0, table := filled.table } ∧ board'.live = board.live ∧
      board'.released = board.released ∧ (segments = [] → board.bugs < board'.bugs) := by
  have hentries : ∀ entry ∈ (List.replicate pages (⟨saa7231PageSize, 0⟩ : SgEntry)).zip segments,
      entry.1 = ⟨saa7231PageSize, 0⟩ := by
    intro entry hmem
    exact List.eq_of_mem_replicate (List.of_mem_zip hmem).1
  simp only [dmabufSgpagefill, Program.run_bind, Program.run_pure, run_store_behind,
    Prod.mk.injEq] at hrun
  obtain ⟨rfl, rfl⟩ := hrun
  refine ⟨?_, by rw [live_bug_on, live_bug_on], by rw [released_bug_on, released_bug_on], ?_⟩
  · rw [PageFill.offset_pad, PageFill.offset_segments hentries 0 hoffset]
  · rintro rfl
    rw [bugs_bug_on, bugs_bug_on, List.isEmpty_nil, Bool.toNat_true]
    omega

/-- A successful allocation at a bus address that was free. Everything a buffer consists of was
acquired, unless the scatterlist could not be mapped and a `BUG_ON` was reached. -/
theorem dmabuf_alloc_acquires (pages : Nat) {ret : Int} {dmabuf : Dmabuf} {board' : Board}
    (hrun : (dmabufAlloc Dmabuf.zero pages).run (boardWorld env) board = ((ret, dmabuf), board'))
    (hret : 0 ≤ ret) :
    ret = 0 ∧ dmabuf.Built ∧ dmabuf.offset = 0 ∧
      (board.Acquires board' dmabuf.resources ∨
        board.bugs < board'.bugs ∧ board.Acquires board' dmabuf.allocations) := by
  simp only [dmabufAlloc, Program.run_bind] at hrun
  have hbugs := bugs_mono env (bugOn (pages == 0)) board
  have hchecked : board.Acquires ((bugOn (pages == 0)).run (boardWorld env) board).2 [] :=
    .of_same (live_bug_on env _ _) (released_bug_on env _ _)
  generalize ((bugOn (pages == 0)).run (boardWorld env) board).2 = checked at hrun hchecked hbugs
  generalize hpt : (allocatePtable _).run (boardWorld env) checked = pt at hrun
  obtain ⟨⟨retPt, withPt⟩, ptBoard⟩ := pt
  have hptSpec := allocate_ptable_spec env checked _ hpt
  have hbugsPt := bugs_of_run hpt
  by_cases hretPt : retPt ≠ 0
  · -- A page table that fails is reported with its own error.
    simp only [hretPt, if_true, Program.run_pure, Prod.mk.injEq, ne_eq, not_false_eq_true] at hrun
    exact absurd (hptSpec (hrun.1.1 ▸ hret)).1 hretPt
  rw [not_not] at hretPt
  -- From here on the page table is live, and the later requests only add to it.
  obtain ⟨-, virt, phys, rfl, hphys, hacquiredPt⟩ := hptSpec (Int.le_of_eq hretPt.symm)
  simp only [hretPt, ne_eq, not_true_eq_false, if_false, Program.run_bind] at hrun
  generalize hsg : (dmabufSgalloc _ pages).run (boardWorld env) ptBoard = sg at hrun
  obtain ⟨⟨retSg, withSg⟩, sgBoard⟩ := sg
  have hsgSpec := dmabuf_sgalloc_spec env ptBoard _ pages hsg
  have hbugsSg := bugs_of_run hsg
  by_cases hretSg : retSg ≠ 0
  · simp only [hretSg, if_true, Program.run_bind, Program.run_pure, Prod.mk.injEq,
      not_false_eq_true] at hrun
    exact absurd (hsgSpec (hrun.1.1 ▸ hret)).1 hretSg
  rw [not_not] at hretSg
  obtain ⟨-, handle, mem, rfl, hacquiredSg⟩ := hsgSpec (Int.le_of_eq hretSg.symm)
  have hacquired := (hchecked.trans hacquiredPt).trans hacquiredSg
  simp only [hretSg, not_true_eq_false, if_false, Program.run_bind, run_dma_map_sg] at hrun
  cases hsegments : env.segments sgBoard.requests with
  | error code =>
      simp only [hsegments, Program.run_bind, Program.run_pure, Prod.mk.injEq] at hrun
      exact absurd hret (by rw [← hrun.1.1]; exact Int.not_le.mpr (Int.negSucc_lt_zero code))
  | ok segments =>
      simp only [hsegments, Program.run_bind, Program.run_pure, Prod.mk.injEq] at hrun
      generalize hfill : (dmabufSgpagefill _ _ segments 0).run (boardWorld env) _ = filled
        at hrun
      obtain ⟨hfilled, hlive, hreleased, hempty⟩ :=
        dmabuf_sgpagefill_spec env _ _ pages segments hfill rfl
      obtain ⟨⟨rfl, rfl⟩, rfl⟩ := hrun
      rw [hfilled]
      refine ⟨rfl, ⟨rfl, rfl, hphys, rfl, rfl⟩, rfl, ?_⟩
      cases segments with
      | nil =>
          refine Or.inr ⟨?_, hacquired.of_ledger rfl hlive (hreleased.trans hacquired.released)⟩
          exact Nat.lt_of_le_of_lt (Nat.le_trans (Nat.le_trans hbugs hbugsPt) hbugsSg) (hempty rfl)
      | cons segment rest =>
          have hmapped := hacquired.map_list (List.mem_cons_of_mem _ List.mem_cons_self) (by simp)
          exact Or.inl (hmapped.of_ledger rfl hlive (hreleased.trans hmapped.released))

/-- A buffer whose parts were all acquired is allocated. -/
theorem Dmabuf.Built.allocated {dmabuf : Dmabuf} (h : dmabuf.Built) {board board' : Board}
    {resources : List Resource} (hacquired : board.Acquires board' resources)
    (hsub : dmabuf.allocations ⊆ resources) : dmabuf.Allocated board' := by
  obtain ⟨virt, hvirt⟩ := Option.isSome_iff_exists.mp h.page
  obtain ⟨mem, hmem⟩ := Option.isSome_iff_exists.mp h.memory
  obtain ⟨sgList, hsgList⟩ := Option.isSome_iff_exists.mp h.list
  have hlive : ∀ resource ∈ dmabuf.allocations, board'.live resource = true :=
    fun resource hmem => hacquired.live_of_mem (hsub hmem)
  simp only [allocations, hvirt, hmem, hsgList, Option.map_some, Option.toList_some,
    List.cons_append, List.nil_append, List.forall_mem_cons] at hlive
  exact ⟨h.type, ⟨virt, hvirt, hlive.2.2.2.1⟩, h.nonzero, hlive.2.2.1, ⟨mem, hmem, hlive.1⟩,
    ⟨sgList, hsgList, hlive.2.1⟩⟩

/-- A successful allocation: all resources of the buffer are live, none was taken away, its
bus address was free and its page offset is zero. -/
theorem dmabuf_alloc_spec (pages : Nat) {ret : Int} {dmabuf : Dmabuf} {board' : Board}
    (hrun : (dmabufAlloc Dmabuf.zero pages).run (boardWorld env) board = ((ret, dmabuf), board'))
    (hret : 0 ≤ ret) :
    ret = 0 ∧ dmabuf.Allocated board' ∧ dmabuf.offset = 0 ∧
      board.live (.single dmabuf.ptPhys) = false ∧ board.Grows board' := by
  obtain ⟨hzero, hbuilt, hoffset, hacquires⟩ := dmabuf_alloc_acquires env board pages hrun hret
  obtain ⟨resources, hsub, hacquired⟩ : ∃ resources, dmabuf.allocations ⊆ resources ∧
      board.Acquires board' resources := by
    rcases hacquires with hall | ⟨-, hunmapped⟩
    · exact ⟨_, List.subset_append_right _ _, hall⟩
    · exact ⟨_, List.Subset.refl _, hunmapped⟩
  have hsingle : Resource.single dmabuf.ptPhys ∈ resources := hsub (by simp [Dmabuf.allocations])
  exact ⟨hzero, hbuilt.allocated hacquired hsub, hoffset, hacquired.fresh _ hsingle trivial,
    hacquired.grows⟩

/-! ## Freeing -/

/-- Operations that release resources, report a `BUG_ON`, or write registers of `A`. -/
def ReleasesOr (A : Nat → Prop) : BusOp BoardOp → Prop :=
  WritesIn A fun op => (∃ resource, op = .release resource) ∨ op = .bug

/-- Operations that only release resources, or report a `BUG_ON`. -/
def Releases : BusOp BoardOp → Prop := ReleasesOr fun _ => False

/-- A program that releases only is one of those that may write, too. -/
theorem Releases.or {A : Nat → Prop} {op : BusOp BoardOp} (h : Releases op) : ReleasesOr A op :=
  WritesIn.mono h (fun _ h => h.elim) fun _ h => h

/-- What is dead stays dead while resources are released. -/
theorem dead_frame {α : Type} {program : BoardProgram α} {A : Nat → Prop}
    (honly : program.Only (ReleasesOr A)) {board : Board} {resource : Resource}
    (hdead : board.live resource = false) :
    (program.run (boardWorld env) board).2.live resource = false := by
  refine Program.run_invariant honly
    (I := fun board : Board => board.live resource = false) ?_ hdead
  intro op board hop hdead
  cases op with
  | rd | wr | delay => exact hdead
  | extra op =>
      rcases hop with ⟨released, rfl⟩ | rfl
      · show Function.update board.live released false resource = false
        by_cases hsame : resource = released
        · rw [hsame]
          exact Function.update_self _ _ _
        · rw [Function.update_of_ne hsame]
          exact hdead
      · exact hdead

/-- A release alone. -/
theorem only_release (resource : Resource) : (release resource).Only Releases :=
  ⟨Or.inl ⟨resource, rfl⟩, fun _ => trivial⟩

/-- A check reports or does nothing. -/
theorem only_bug_on (condition : Bool) : (bugOn condition).Only Releases := by
  cases condition with
  | false => trivial
  | true => exact ⟨Or.inr rfl, fun _ => trivial⟩

/-- The release of a pointer that may be `NULL`. -/
theorem only_release_some (resource : Option Resource) :
    (releaseSome resource).Only Releases := by
  cases resource with
  | none => trivial
  | some resource => exact only_release resource

/-- The page table is released. -/
theorem only_free_ptable (dmabuf : Dmabuf) : (freePtable dmabuf).Only Releases :=
  Program.Only.bind (only_release_some _) fun _ => only_release_some _

/-- So is the scatterlist. -/
theorem only_sgfree (dmabuf : Dmabuf) : (dmabufSgfree dmabuf).Only Releases := by
  refine Program.Only.bind (only_bug_on _) fun _ => ?_
  refine Program.Only.bind (only_release_some _) fun _ => ?_
  exact Program.Only.bind (only_release_some _) fun _ => trivial

/-- Freeing a buffer releases and does nothing else. -/
theorem only_dmabuf_free (dmabuf : Dmabuf) : (dmabufFree dmabuf).Only Releases := by
  have hunmap : (dmabufUnmap dmabuf).Only Releases := by
    unfold dmabufUnmap
    split
    next sgList _ =>
        split
        next => exact Program.Only.bind (only_release _) fun _ => trivial
        next => trivial
    next => trivial
  have hlist : ∀ dmabuf, (dmabufFreeList dmabuf).Only Releases := by
    intro dmabuf
    unfold dmabufFreeList
    split
    next => exact only_sgfree dmabuf
    next => trivial
  refine Program.Only.bind hunmap fun unmapped => ?_
  refine Program.Only.bind (hlist unmapped) fun freed => ?_
  exact Program.Only.bind (only_free_ptable freed) fun _ => trivial

/-! ## Allocating and freeing touch the ledger only -/

/-- Operations that request or release resources, report a `BUG_ON`, or store behind a page. -/
abbrev Manages : BusOp BoardOp → Prop :=
  WritesIn (fun _ => False) fun op => op.record = some .ledger ∨ op.record = some .bugs ∨
    ∃ page words, op = .strayStores page words

/-- The management of memory is recorded in the ledger, and its checks are counted. -/
theorem Manages.touches {A : Nat → Prop} {op : BusOp BoardOp} (h : Manages op) :
    Touches A [.ledger, .bugs] op := by
  refine WritesIn.mono h (fun _ h => h.elim) ?_
  rintro op (hledger | hbugs | ⟨page, words, rfl⟩) record hrecord
  · simp_all
  · simp_all
  · cases hrecord

/-- So are releases beside writes. -/
theorem ReleasesOr.touches {A : Nat → Prop} {op : BusOp BoardOp} (h : ReleasesOr A op) :
    Touches A [.ledger, .bugs] op := by
  refine WritesIn.mono h (fun _ h => h) ?_
  rintro _ (⟨resource, rfl⟩ | rfl) <;> simp [BoardOp.record]

/-- Releasing is part of managing. -/
theorem manages_of_releases {α : Type} {program : BoardProgram α}
    (honly : program.Only Releases) : program.Only Manages := by
  refine honly.mono fun op hop => WritesIn.mono hop (fun _ h => h) ?_
  rintro _ (⟨resource, rfl⟩ | rfl)
  · exact Or.inl rfl
  · exact Or.inr (Or.inl rfl)

/-- The page table is a page that is mapped. -/
theorem only_allocate_ptable (dmabuf : Dmabuf) :
    (allocatePtable dmabuf).Only (Manages) := by
  simp only [allocatePtable, only_get_free_page_bind]
  refine ⟨Or.inl rfl, fun page => ?_⟩
  cases page with
  | none => trivial
  | some virt =>
      simp only [only_dma_map_single_bind, Program.only_ite]
      refine ⟨Or.inl rfl, fun phys => ⟨fun _ => trivial, fun _ => ?_⟩⟩
      exact Program.Only.bind (manages_of_releases (only_bug_on _)) fun _ => trivial

/-- The scatterlist and its memory are requested. -/
theorem only_dmabuf_sgalloc (dmabuf : Dmabuf) (pages : Nat) :
    (dmabufSgalloc dmabuf pages).Only (Manages) := by
  refine Program.Only.bind (manages_of_releases (only_bug_on _)) fun _ => ?_
  simp only [only_kzalloc_bind]
  refine ⟨Or.inl rfl, fun list => ?_⟩
  cases list with
  | none => trivial
  | some handle =>
      simp only [only_vmalloc_bind]
      refine ⟨Or.inl rfl, fun mem => ?_⟩
      cases mem with
      | none => trivial
      | some mem => exact Program.Only.bind (manages_of_releases (only_bug_on _)) fun _ => trivial

/-- Stores behind a page are recorded as such. -/
theorem only_store_behind (page : Option Nat) (words : List (Nat × BitVec 32)) :
    (storeBehind page words).Only Manages := by
  cases words with
  | nil => trivial
  | cons word words => exact ⟨Or.inr (Or.inr ⟨_, _, rfl⟩), fun _ => trivial⟩

/-- The fill of the page table writes memory only. -/
theorem only_sgpagefill (dmabuf : Dmabuf) (entries : List SgEntry)
    (segments : List (BitVec 64 × Nat)) (offset : BitVec 32) :
    (dmabufSgpagefill dmabuf entries segments offset).Only (Manages) := by
  refine Program.Only.bind (manages_of_releases (only_bug_on _)) fun _ => ?_
  refine Program.Only.bind (only_store_behind _ _) fun _ => ?_
  exact Program.Only.bind (manages_of_releases (only_bug_on _)) fun _ => trivial

/-- An allocation requests, checks and stores. -/
theorem only_dmabuf_alloc (dmabuf : Dmabuf) (pages : Nat) :
    (dmabufAlloc dmabuf pages).Only (Manages) := by
  refine Program.Only.bind (manages_of_releases (only_bug_on _)) fun _ => ?_
  refine Program.Only.bind (only_allocate_ptable _) fun pt => ?_
  simp only [Program.only_ite]
  refine ⟨fun _ => trivial, fun _ => ?_⟩
  refine Program.Only.bind (only_dmabuf_sgalloc _ _) fun sg => ?_
  simp only [Program.only_ite]
  refine ⟨fun _ => Program.Only.bind (manages_of_releases (only_free_ptable _)) fun _ => trivial,
    fun _ => ?_⟩
  cases sg.2.sgList with
  | none => trivial
  | some sgList =>
      simp only [only_dma_map_sg_bind]
      refine ⟨Or.inl rfl, fun mapped => ?_⟩
      cases mapped with
      | error code =>
          refine Program.Only.bind (manages_of_releases (only_sgfree _)) fun freed => ?_
          exact Program.Only.bind (manages_of_releases (only_free_ptable _)) fun _ => trivial
      | ok segments => exact Program.Only.bind (only_sgpagefill _ _ _ _) fun _ => trivial

/-- The page table of a buffer is released. -/
theorem free_ptable_dead (dmabuf : Dmabuf) (hnonzero : dmabuf.ptPhys ≠ 0) :
    ((freePtable dmabuf).run (boardWorld env) board).2.live (.single dmabuf.ptPhys) = false := by
  simp only [freePtable, hnonzero, Program.run_bind, ne_eq, not_false_eq_true, if_true]
  refine dead_frame env (only_release_some _) ?_
  exact Function.update_self _ _ _

/-- A freed buffer has lost its page table. -/
theorem dmabuf_free_dead (dmabuf : Dmabuf) (hnonzero : dmabuf.ptPhys ≠ 0) :
    ((dmabufFree dmabuf).run (boardWorld env) board).2.live (.single dmabuf.ptPhys) = false := by
  have hunmap : (dmabufUnmap dmabuf).Yields fun unmapped => unmapped.ptPhys = dmabuf.ptPhys := by
    unfold dmabufUnmap
    split
    next =>
        split
        next => exact fun _ => rfl
        next => rfl
    next => rfl
  have hlist : ∀ unmapped, (dmabufFreeList unmapped).Yields fun freed =>
      freed.ptPhys = unmapped.ptPhys := by
    intro unmapped
    unfold dmabufFreeList dmabufSgfree
    split
    next =>
        simp only [Program.yields_bind, Program.yields_pure]
        exact Program.Yields.of_forall fun _ => Program.Yields.of_forall fun _ =>
          Program.Yields.of_forall fun _ => trivial
    next => rfl
  simp only [dmabufFree, Program.run_bind, Program.run_pure]
  generalize hunmapped : (dmabufUnmap dmabuf).run (boardWorld env) board = unmapped
  generalize hfreed : (dmabufFreeList unmapped.1).run (boardWorld env) unmapped.2 = freed
  have hsame : freed.1.ptPhys = dmabuf.ptPhys := by
    rw [← hfreed, (hlist unmapped.1).run, ← hunmapped, hunmap.run]
  -- Neither the unmapping nor the list touches the address that is released last.
  rw [← hsame] at hnonzero ⊢
  exact free_ptable_dead env freed.2 freed.1 hnonzero

end Alloc

end Saa7231
