import Saa7231.Interaction.Consequence
import Saa7231.Stream.InitFrame

/-!
# Answers that end an initialisation badly

Two kinds of answers of the DMA functions are not taken for failures. A page table or a page at an
address that fails a check, and a scatterlist without a segment, run into a `BUG_ON`; a scatterlist
mapped to more than 512 pages overflows its page table. An initialisation with a plausible number of
pages reaches a `BUG_ON` exactly on the first kind (`bug_rule`, `unsound_rule`), and stores behind a page
exactly on the second (`stray_rule`, `overfull_rule`). Each rule is a `FaultRule`, which
`FaultRule.stream_init` takes through the whole initialisation.
-/

namespace Saa7231

open Interaction Bus Program

/-- An operation of the stream code with its answer. -/
abbrev BoardStep : Type := Exchange (BusOp BoardOp) (BusAns BoardAns)

/-- A `BUG_ON` that was reached. -/
def reportsBug : BoardStep → Bool
  | ⟨.extra .bug, _⟩ => true
  | _ => false

/-- A store behind the end of a page-table page. -/
def storesBehind : BoardStep → Bool
  | ⟨.extra (.strayStores _ _), _⟩ => true
  | _ => false

/-- The pages that fill the table of a scatterlist with so many entries. -/
def mappedPages (entries : Nat) (segments : List (BitVec 64 × Nat)) : List (BitVec 64) :=
  (segments.take entries).flatMap segmentPages

/-- A mapping that fails a check: a page table that is not aligned, no segment at all, or a page of
a segment that is not aligned or at address zero. -/
def unsound : BoardStep → Bool
  | ⟨.extra (.dmaMapSingle _), answer⟩ =>
      (show BitVec 64 from answer).toNat % saa7231PageSize != 0
  | ⟨.extra (.dmaMapSg _ pages), answer⟩ =>
      match (show Except Nat (List (BitVec 64 × Nat)) from answer) with
      | .ok segments =>
          segments.isEmpty || (mappedPages pages segments).any fun address => ¬ ValidPage address
      | .error _ => false
  | _ => false

/-- A mapping with more pages than a table has entries. -/
def overfull : BoardStep → Bool
  | ⟨.extra (.dmaMapSg _ pages), answer⟩ =>
      match (show Except Nat (List (BitVec 64 × Nat)) from answer) with
      | .ok segments => pageEntries < (mappedPages pages segments).length
      | .error _ => false
  | _ => false

/-- A number of pages that passes the checks: not zero, and not so large that the size of the memory
overflows. -/
def PlausiblePages (pages : Nat) : Prop :=
  pages ≠ 0 ∧ pages ≤ (vmallocSize pages).toNat / saa7231PageSize

instance (pages : Nat) : Decidable (PlausiblePages pages) :=
  inferInstanceAs (Decidable (_ ∧ _))

/-! ## What is reached in one page table -/

/-- The step of a `BUG_ON`. -/
def bugStep : BoardStep := ⟨.extra .bug, ()⟩

section Traces

variable {Q : Unit → List BoardStep → Prop}

/-- A check is passed in silence, or reports its bug. -/
theorem traces_bug_on {condition : Bool} :
    (bugOn condition).Traces Q ↔ Q () (if condition then [bugStep] else []) := by
  cases condition with
  | false => exact Iff.rfl
  | true => exact ⟨fun h => h (), fun h _ => h⟩

/-- The step of the stores behind a page, if there are any. -/
def straySteps (page : Option Nat) (words : List (Nat × BitVec 32)) : List BoardStep :=
  if words = [] then [] else [⟨.extra (.strayStores page words), ()⟩]

/-- The stores behind a page are the steps that are recorded for them. -/
theorem traces_store_behind {page : Option Nat} {words : List (Nat × BitVec 32)} :
    (storeBehind page words).Traces Q ↔ Q () (straySteps page words) := by
  cases words with
  | nil => exact Iff.rfl
  | cons word words => exact ⟨fun h => h (), fun h _ => h⟩

end Traces

/-- Zipped with equal entries a list loses what has no entry. -/
theorem zip_replicate_map_snd {γ δ : Type} (n : Nat) (x : γ) (ys : List δ) :
    ((List.replicate n x).zip ys).map Prod.snd = ys.take n := by
  induction n generalizing ys with
  | zero => rfl
  | succ n ih =>
      cases ys with
      | nil => rfl
      | cons y ys =>
          rw [List.replicate_succ, List.zip_cons_cons, List.map_cons, ih, List.take_succ_cons]

/-- The pages that the loops visit in a scatterlist of whole pages. -/
theorem visited_mapped_pages (entries : Nat) (segments : List (BitVec 64 × Nat)) :
    (((List.replicate entries (⟨saa7231PageSize, 0⟩ : SgEntry)).zip segments).flatMap fun pair =>
      segmentPages pair.2) = mappedPages entries segments := by
  have hflat := congrArg (List.flatMap segmentPages)
    (zip_replicate_map_snd entries (⟨saa7231PageSize, 0⟩ : SgEntry) segments)
  rwa [List.flatMap_map] at hflat

/-- The steps in which a page table is filled: the checks that fail, and between them the stores for
which the table has no room. -/
def fillSteps (page : Option Nat) (pages : Nat) (segments : List (BitVec 64 × Nat)) :
    List BoardStep :=
  (if segments.isEmpty then [bugStep] else []) ++
    (straySteps page (entryWords pageEntries ((mappedPages pages segments).drop pageEntries)) ++
      if ∀ address ∈ mappedPages pages segments, ValidPage address then [] else [bugStep])

/-- The steps of the fill depend on the number of pages and on the segments only. -/
theorem sgpagefill_traces (dmabuf : Dmabuf) (pages : Nat) (segments : List (BitVec 64 × Nat)) :
    (dmabufSgpagefill dmabuf (List.replicate pages ⟨saa7231PageSize, 0⟩) segments 0).Traces
      fun _ steps => steps = fillSteps dmabuf.ptVirt pages segments := by
  have hentries : ∀ pair ∈ (List.replicate pages (⟨saa7231PageSize, 0⟩ : SgEntry)).zip segments,
      pair.1.offset = 0 := by
    intro pair hpair
    rw [List.eq_of_mem_replicate (List.of_mem_zip hpair).1]
  have hfilled := filled_segments dmabuf.offset hentries
  rw [visited_mapped_pages] at hfilled
  unfold dmabufSgpagefill
  dsimp only
  generalize ((PageFill.start dmabuf.offset 0).segments 0 _).pad = fill at hfilled ⊢
  rw [traces_bind, traces_bug_on, traces_bind, traces_store_behind, traces_bind, traces_bug_on,
    traces_pure, hfilled.strays, List.append_nil]
  have hlast : (if fill.bug then [bugStep] else []) =
      if ∀ address ∈ mappedPages pages segments, ValidPage address then [] else [bugStep] := by
    have hbug := hfilled.bug
    cases hfired : fill.bug with
    | false => rw [if_pos (hbug.mp hfired), if_neg Bool.false_ne_true]
    | true =>
        rw [if_pos rfl, if_neg fun hvalid => ?_]
        exact absurd (hfired.symm.trans (hbug.mpr hvalid)) (by decide)
  rw [hlast]
  rfl

/-! ## One rule for the whole initialisation -/

/-- The operations whose answers and occurrence matter here. -/
def BoardOp.harmless : BoardOp → Bool
  | .dmaMapSingle _ | .dmaMapSg _ _ | .strayStores _ _ | .bug => false
  | _ => true

/-- Any other operation. -/
abbrev Harmless : BusOp BoardOp → Prop := WritesIn (fun _ => True) fun op => op.harmless = true

section Harmless

/-- A release breaks nothing. -/
theorem harmless_release (resource : Option Resource) : (releaseSome resource).Only Harmless := by
  cases resource with
  | none => trivial
  | some resource => exact ⟨rfl, fun _ => trivial⟩

/-- Neither does the release of a page table. -/
theorem harmless_free_ptable (dmabuf : Dmabuf) : (freePtable dmabuf).Only Harmless :=
  Only.bind (harmless_release _) fun _ => harmless_release _

/-- The check of the freed scatterlist passes if there is one. -/
theorem harmless_sgfree {dmabuf : Dmabuf} (hlist : dmabuf.sgList.isSome = true) :
    (dmabufSgfree dmabuf).Only Harmless := by
  obtain ⟨sgList, hsome⟩ := Option.isSome_iff_exists.mp hlist
  unfold dmabufSgfree
  rw [hsome]
  have hpassed : (bugOn (some sgList).isNone).Only Harmless := trivial
  refine Only.bind hpassed fun _ => ?_
  refine Only.bind (harmless_release _) fun _ => ?_
  exact Only.bind (harmless_release _) fun _ => trivial

/-- Nor does an acquire. -/
theorem harmless_acquire (stream : Stream) : (ts2dtlAcquire stream).Only Harmless := by
  have hlocked : (ts2dtlAcquireLocked stream).Only Harmless :=
    only_acquire_locked (fun _ _ => rfl) (Or.inr fun _ => rfl) fun _ _ => trivial
  unfold ts2dtlAcquire
  simp only [only_ite, only_mutex_lock_bind, only_mutex_unlock_bind]
  refine ⟨fun _ => ⟨rfl, fun _ => trivial⟩, fun _ => ⟨rfl, fun _ => ?_⟩⟩
  exact Only.bind hlocked fun _ => ⟨rfl, fun _ => trivial⟩

/-- A scatterlist that is allocated has an entry for every page. -/
theorem sgalloc_yields (dmabuf : Dmabuf) (pages : Nat) :
    (dmabufSgalloc dmabuf pages).Yields fun result => result.1 = 0 → ∃ handle,
      result.2.sgList = some ⟨handle, List.replicate pages ⟨saa7231PageSize, 0⟩⟩ ∧
        result.2.pages = pages := by
  have herror : -enomem ≠ 0 := by decide
  unfold dmabufSgalloc
  refine yields_bind.mpr (Yields.of_forall fun _ => yields_bind.mpr (Yields.of_forall fun list => ?_))
  cases list with
  | none => exact fun hzero => absurd hzero herror
  | some handle =>
      refine yields_bind.mpr (Yields.of_forall fun memory => ?_)
      cases memory with
      | none => exact fun hzero => absurd hzero herror
      | some mem => exact yields_bind.mpr (Yields.of_forall fun _ _ => ⟨handle, rfl, rfl⟩)

end Harmless

/-- The check of a page table: its steps for an address. -/
def ptableSteps (page : Nat) (address : BitVec 64) : List BoardStep :=
  ⟨.extra (.dmaMapSingle page), address⟩ ::
    if address.toNat % saa7231PageSize != 0 then [bugStep] else []

/-- In each of the places that are not harmless the effect follows from the cause. -/
structure FaultRule (cause effect : BoardStep → Prop) (pages : Nat) : Prop where
  harmless : ∀ op, Harmless op → ∀ answer, ¬ cause ⟨op, answer⟩
  number : (bugOn (pages == 0)).Entails cause effect
  area : (bugOn (decide ((vmallocSize pages).toNat / saa7231PageSize < pages))).Entails cause effect
  refused : ∀ page, ¬ cause ⟨.extra (.dmaMapSingle page), (0 : BitVec 64)⟩
  table : ∀ page address, (∃ step ∈ ptableSteps page address, cause step) →
    ∃ step ∈ ptableSteps page address, effect step
  unmapped : ∀ list code, ¬ cause ⟨.extra (.dmaMapSg list pages),
    (.error code : Except Nat (List (BitVec 64 × Nat)))⟩
  filled : ∀ (list : Nat) (page : Option Nat) (segments : List (BitVec 64 × Nat)),
    let steps := ⟨.extra (.dmaMapSg list pages),
      (.ok segments : Except Nat (List (BitVec 64 × Nat)))⟩ :: fillSteps page pages segments
    (∃ step ∈ steps, cause step) → ∃ step ∈ steps, effect step

namespace FaultRule

variable {cause effect : BoardStep → Prop} {pages : Nat} {α : Type}

/-- A harmless part of the initialisation. -/
theorem of_harmless (h : FaultRule cause effect pages) {program : BoardProgram α}
    (honly : program.Only Harmless) : program.Entails cause effect :=
  entails_of_only (honly.mono fun op hop => h.harmless op hop)

/-- A rule holds of the allocation of the page table. -/
theorem allocate_ptable (h : FaultRule cause effect pages) (dmabuf : Dmabuf) :
    (allocatePtable dmabuf).Entails cause effect := by
  unfold allocatePtable
  refine (h.of_harmless ⟨rfl, fun _ => trivial⟩ : getFreePage.Entails cause effect).bind fun page => ?_
  cases page with
  | none => exact entails_pure _
  | some virt =>
      show (dmaMapSingle virt >>= _).Traces _
      refine traces_extra_bind.mpr fun (address : BitVec 64) => ?_
      rw [traces_ite]
      refine ⟨fun hzero => ?_, fun _ => ?_⟩
      · rw [traces_pure]
        rintro ⟨step, hstep, hcause⟩
        rw [List.mem_singleton.mp hstep, hzero] at hcause
        exact absurd hcause (h.refused virt)
      · rw [traces_bind, traces_bug_on, traces_pure, List.append_nil]
        exact h.table virt address

/-- It holds of the scatterlist's. -/
theorem dmabuf_sgalloc (h : FaultRule cause effect pages) (dmabuf : Dmabuf) :
    (dmabufSgalloc dmabuf pages).Entails cause effect := by
  unfold dmabufSgalloc
  refine h.number.bind fun _ => ?_
  refine (h.of_harmless ⟨rfl, fun _ => trivial⟩ : kzalloc.Entails cause effect).bind fun list => ?_
  cases list with
  | none => exact entails_pure _
  | some handle =>
      show (vmalloc _ >>= _).Entails _ _
      refine (h.of_harmless ⟨rfl, fun _ => trivial⟩ :
        (vmalloc (vmallocSize pages)).Entails cause effect).bind fun memory => ?_
      cases memory with
      | none => exact entails_pure _
      | some mem => exact h.area.bind fun _ => entails_pure _

/-- Only a mapping and the table that it fills are not harmless. -/
theorem dmabuf_alloc (h : FaultRule cause effect pages) (dmabuf : Dmabuf) :
    (dmabufAlloc dmabuf pages).Entails cause effect := by
  unfold dmabufAlloc
  refine h.number.bind fun _ => (h.allocate_ptable _).bind fun table => ?_
  refine entails_ite.mpr ⟨fun _ => entails_pure _, fun _ => ?_⟩
  refine (h.dmabuf_sgalloc _).bind_yields (sgalloc_yields _ pages) fun listed hlisted => ?_
  refine entails_ite.mpr ⟨fun _ => ?_, fun hzero => ?_⟩
  · exact (h.of_harmless (harmless_free_ptable _)).bind fun _ => entails_pure _
  · obtain ⟨handle, hlist, hpages⟩ := hlisted (not_not.mp hzero)
    rw [hlist]
    show (dmaMapSg handle listed.2.pages >>= _).Traces _
    rw [hpages]
    refine traces_extra_bind.mpr fun answer => ?_
    rcases answer with code | segments
    · -- What the error path frees has its scatterlist.
      refine Traces.mono (h.of_harmless (α := Int × Dmabuf) ?_) fun _ steps hsteps => ?_
      · exact Only.bind (harmless_sgfree (hlist ▸ rfl)) fun freed =>
          Only.bind (harmless_free_ptable freed) fun _ => trivial
      · rintro ⟨step, hstep, hcause⟩
        rcases List.mem_cons.mp hstep with rfl | hlater
        · exact absurd hcause (h.unmapped handle code)
        · obtain ⟨found, hfound, heffect⟩ := hsteps ⟨step, hlater, hcause⟩
          exact ⟨found, List.mem_cons_of_mem _ hfound, heffect⟩
    · refine traces_bind.mpr ((sgpagefill_traces _ pages segments).mono ?_)
      rintro filled steps rfl
      rw [traces_pure, List.append_nil]
      exact h.filled handle _ segments

/-- It holds of all buffers. -/
theorem alloc_buffers (h : FaultRule cause effect pages) (i n : Nat) :
    (allocBuffers pages i n).Entails cause effect := by
  induction n generalizing i with
  | zero => exact entails_pure _
  | succ n ih =>
      refine (h.dmabuf_alloc Dmabuf.zero).bind fun first => ?_
      refine entails_ite.mpr ⟨fun _ => entails_pure _, fun _ => ?_⟩
      exact (ih (i + 1)).bind fun _ => entails_pure _

/-- It holds of the initialisation of the engine. -/
theorem ts2dtl_init (h : FaultRule cause effect pages) (config : TsConfig) (stream : Stream) :
    (ts2dtlInit config stream pages).Entails cause effect := by
  have hunlock : ∀ {α : Type} (value : α),
      (mutexUnlock .devLock >>= fun _ => pure value : BoardProgram α).Entails cause effect :=
    fun _ => h.of_harmless ⟨rfl, fun _ => trivial⟩
  have hkzalloc : kzalloc.Entails cause effect := h.of_harmless ⟨rfl, fun _ => trivial⟩
  have hlock : (mutexLock .devLock).Entails cause effect := h.of_harmless ⟨rfl, fun _ => trivial⟩
  unfold ts2dtlInit
  refine hlock.bind fun _ => ?_
  cases ts2dtlConfigure config stream with
  | none => exact entails_pure _
  | some configured =>
      refine hkzalloc.bind fun array => ?_
      cases array with
      | none => exact hunlock _
      | some array =>
          refine (h.alloc_buffers 0 ringsiz).bind fun buffers => ?_
          refine entails_ite.mpr ⟨fun _ => hunlock _, fun _ => ?_⟩
          refine hkzalloc.bind fun ringHandle => ?_
          cases ringHandle with
          | none => exact hunlock _
          | some ringHandle =>
              refine (h.of_harmless (only_init_ptables fun _ _ => trivial)).bind fun tabled => ?_
              exact (h.of_harmless (only_close_gates _ fun _ _ => trivial)).bind fun _ => hunlock _

/-- The rule holds over the whole initialisation of a transport stream. -/
theorem stream_init (h : FaultRule cause effect pages) (config : TsConfig)
    (adapType : AdapterType) (count : Nat) :
    (streamInit config .digitalCapture adapType count pages).Entails cause effect := by
  unfold streamInit
  refine (h.of_harmless ⟨rfl, fun _ => trivial⟩ : kzalloc.Entails cause effect).bind fun handle => ?_
  cases handle with
  | none => exact entails_pure _
  | some handle =>
      show (streamInitDigital config _ adapType count pages).Entails cause effect
      unfold streamInitDigital
      refine entails_ite.mpr ⟨fun _ => entails_pure _, fun _ => ?_⟩
      refine (h.ts2dtl_init config _).bind fun engine => ?_
      refine entails_ite.mpr ⟨fun _ => entails_pure _, fun _ => ?_⟩
      refine (h.of_harmless (harmless_acquire _)).bind fun acquired => ?_
      exact entails_ite.mpr ⟨fun _ => entails_pure _, fun _ => entails_pure _⟩

end FaultRule

/-! ## The single rules -/

section Rules

variable {pages : Nat}

/-- A check that never fails on a plausible number of pages. -/
theorem PlausiblePages.checks (h : PlausiblePages pages) :
    bugOn (pages == 0) = pure () ∧
      bugOn (decide ((vmallocSize pages).toNat / saa7231PageSize < pages)) = pure () := by
  have hnumber : (pages == 0) = false := beq_false_of_ne h.1
  have harea : decide ((vmallocSize pages).toNat / saa7231PageSize < pages) = false :=
    decide_eq_false (Nat.not_lt.mpr h.2)
  rw [hnumber, harea]
  exact ⟨rfl, rfl⟩

/-- A cause that no check reports. -/
theorem bug_on_entails {cause effect : BoardStep → Prop} (hbug : ¬ cause bugStep)
    (condition : Bool) : (bugOn condition).Entails cause effect := by
  refine entails_of_only ?_
  cases condition with
  | false => trivial
  | true => exact ⟨fun _ => hbug, fun _ => trivial⟩

/-- What the filling of a page table can reach. -/
theorem mem_fill_steps {page : Option Nat} {segments : List (BitVec 64 × Nat)} {step : BoardStep} :
    step ∈ fillSteps page pages segments ↔
      (step = bugStep ∧
        (segments.isEmpty ∨ ∃ address ∈ mappedPages pages segments, ¬ ValidPage address)) ∨
      step = ⟨.extra (.strayStores page
          (entryWords pageEntries ((mappedPages pages segments).drop pageEntries))), ()⟩ ∧
        pageEntries < (mappedPages pages segments).length := by
  have hwords : entryWords pageEntries ((mappedPages pages segments).drop pageEntries) = [] ↔
      ¬ pageEntries < (mappedPages pages segments).length := by
    rw [Nat.not_lt, ← List.drop_eq_nil_iff]
    cases (mappedPages pages segments).drop pageEntries with
    | nil => exact ⟨fun _ => rfl, fun _ => rfl⟩
    | cons address rest => exact ⟨fun h => (List.cons_ne_nil _ _ h).elim, nofun⟩
  have hvalid : (¬ ∀ address ∈ mappedPages pages segments, ValidPage address) ↔
      ∃ address ∈ mappedPages pages segments, ¬ ValidPage address := by
    simp only [not_forall, exists_prop]
  unfold fillSteps straySteps
  rw [List.mem_append, List.mem_append, ← hvalid]
  split_ifs <;> simp_all <;> tauto

/-- A scatterlist fails a check exactly if filling its table reaches a `BUG_ON`. -/
theorem unsound_sg {list : Nat} {segments : List (BitVec 64 × Nat)} :
    unsound ⟨.extra (.dmaMapSg list pages),
        (.ok segments : Except Nat (List (BitVec 64 × Nat)))⟩ = true ↔
      segments.isEmpty ∨ ∃ address ∈ mappedPages pages segments, ¬ ValidPage address := by
  show (segments.isEmpty || (mappedPages pages segments).any _) = true ↔ _
  rw [Bool.or_eq_true, List.any_eq_true]
  simp only [decide_eq_true_eq]

/-- A mapping is overfull exactly if its pages do not fit into the table. -/
theorem overfull_sg {list : Nat} {segments : List (BitVec 64 × Nat)} :
    overfull ⟨.extra (.dmaMapSg list pages),
        (.ok segments : Except Nat (List (BitVec 64 × Nat)))⟩ = true ↔
      pageEntries < (mappedPages pages segments).length :=
  decide_eq_true_iff

/-- None of the four is a matter of a harmless operation. -/
theorem harmless_step {op : BusOp BoardOp} (hop : Harmless op) (answer : BusAns BoardAns op) :
    reportsBug ⟨op, answer⟩ = false ∧ storesBehind ⟨op, answer⟩ = false ∧
      unsound ⟨op, answer⟩ = false ∧ overfull ⟨op, answer⟩ = false := by
  cases op with
  | extra op => cases op <;> first | exact ⟨rfl, rfl, rfl, rfl⟩ | exact Bool.noConfusion hop
  | _ => exact ⟨rfl, rfl, rfl, rfl⟩

/-- The page table itself is one page. -/
theorem ptable_fits {page : Nat} {address : BitVec 64} :
    ∀ step ∈ ptableSteps page address, storesBehind step = false ∧ overfull step = false := by
  unfold ptableSteps
  split_ifs <;> simp [storesBehind, overfull, bugStep]

/-- A `BUG_ON` that is reached comes from a mapping that fails a check. -/
theorem bug_rule (hpages : PlausiblePages pages) :
    FaultRule (fun step => reportsBug step = true) (fun step => unsound step = true) pages where
  harmless op hop answer := ne_true_of_eq_false (harmless_step hop answer).1
  number := by
    rw [hpages.checks.1]
    exact entails_pure _
  area := by
    rw [hpages.checks.2]
    exact entails_pure _
  refused _ := Bool.false_ne_true
  table page address := by
    by_cases haligned : address.toNat % saa7231PageSize = 0
    · simp [ptableSteps, haligned, reportsBug]
    · simp [ptableSteps, haligned, unsound]
  unmapped _ _ := Bool.false_ne_true
  filled list page segments := by
    intro steps
    rintro ⟨step, hstep, hcause⟩
    rcases List.mem_cons.mp hstep with rfl | hfill
    · exact absurd hcause Bool.false_ne_true
    · rcases mem_fill_steps.mp hfill with ⟨-, hfailed⟩ | ⟨rfl, -⟩
      · exact ⟨_, List.mem_cons_self, unsound_sg.mpr hfailed⟩
      · exact absurd hcause Bool.false_ne_true

/-- A mapping that fails a check ends in a `BUG_ON`. -/
theorem unsound_rule :
    FaultRule (fun step => unsound step = true) (fun step => reportsBug step = true) pages where
  harmless op hop answer := ne_true_of_eq_false (harmless_step hop answer).2.2.1
  number := bug_on_entails Bool.false_ne_true _
  area := bug_on_entails Bool.false_ne_true _
  refused _ := Bool.false_ne_true
  table page address := by
    by_cases haligned : address.toNat % saa7231PageSize = 0
    · simp [ptableSteps, haligned, unsound]
    · simp [ptableSteps, haligned, reportsBug, bugStep]
  unmapped _ _ := Bool.false_ne_true
  filled list page segments := by
    intro steps
    rintro ⟨step, hstep, hcause⟩
    rcases List.mem_cons.mp hstep with rfl | hfill
    · exact ⟨bugStep, List.mem_cons_of_mem _
        (mem_fill_steps.mpr (Or.inl ⟨rfl, unsound_sg.mp hcause⟩)), rfl⟩
    · rcases mem_fill_steps.mp hfill with ⟨rfl, -⟩ | ⟨rfl, -⟩ <;>
        exact absurd hcause Bool.false_ne_true

/-- What is stored behind a page comes from a mapping with too many pages. -/
theorem stray_rule :
    FaultRule (fun step => storesBehind step = true) (fun step => overfull step = true) pages where
  harmless op hop answer := ne_true_of_eq_false (harmless_step hop answer).2.1
  number := bug_on_entails Bool.false_ne_true _
  area := bug_on_entails Bool.false_ne_true _
  refused _ := Bool.false_ne_true
  table page address := by
    rintro ⟨step, hstep, hcause⟩
    exact absurd hcause (ne_true_of_eq_false (ptable_fits step hstep).1)
  unmapped _ _ := Bool.false_ne_true
  filled list page segments := by
    intro steps
    rintro ⟨step, hstep, hcause⟩
    rcases List.mem_cons.mp hstep with rfl | hfill
    · exact absurd hcause Bool.false_ne_true
    · rcases mem_fill_steps.mp hfill with ⟨rfl, -⟩ | ⟨-, hmany⟩
      · exact absurd hcause Bool.false_ne_true
      · exact ⟨_, List.mem_cons_self, overfull_sg.mpr hmany⟩

/-- A mapping with too many pages leads to stores behind the page. -/
theorem overfull_rule :
    FaultRule (fun step => overfull step = true) (fun step => storesBehind step = true) pages where
  harmless op hop answer := ne_true_of_eq_false (harmless_step hop answer).2.2.2
  number := bug_on_entails Bool.false_ne_true _
  area := bug_on_entails Bool.false_ne_true _
  refused _ := Bool.false_ne_true
  table page address := by
    rintro ⟨step, hstep, hcause⟩
    exact absurd hcause (ne_true_of_eq_false (ptable_fits step hstep).2)
  unmapped _ _ := Bool.false_ne_true
  filled list page segments := by
    intro steps
    rintro ⟨step, hstep, hcause⟩
    rcases List.mem_cons.mp hstep with rfl | hfill
    · exact ⟨_, List.mem_cons_of_mem _
        (mem_fill_steps.mpr (Or.inr ⟨rfl, overfull_sg.mp hcause⟩)), rfl⟩
    · rcases mem_fill_steps.mp hfill with ⟨rfl, -⟩ | ⟨rfl, -⟩ <;>
        exact absurd hcause Bool.false_ne_true

/-- Words of whole table entries, none of them `2` in its lower half. -/
structure EntryStores (words : List (Nat × BitVec 32)) : Prop where
  some : words ≠ []
  low : ∀ n word, (n * 2, word) ∈ words → word ≠ 2
  pair : ∀ n word, (n * 2 + 1, word) ∈ words → ∃ low, (n * 2, low) ∈ words

/-- A store behind a page of anything else. -/
def misplaces : BoardStep → Prop
  | ⟨.extra (.strayStores _ words), _⟩ => ¬ EntryStores words
  | _ => False

/-- What is misplaced is stored behind the page. -/
theorem misplaces_stores {step : BoardStep} (h : misplaces step) : storesBehind step = true := by
  obtain ⟨op, answer⟩ := step
  cases op with
  | extra op => cases op <;> first | rfl | exact h.elim
  | _ => exact h.elim

/-- The words at even places are the lower halves of the addresses. -/
theorem entry_words_even {k n : Nat} {addresses : List (BitVec 64)} {word : BitVec 32}
    (h : (n * 2, word) ∈ entryWords k addresses) :
    ∃ address ∈ addresses, addrLsb address = word := by
  induction addresses generalizing k with
  | nil => exact absurd h List.not_mem_nil
  | cons first rest ih =>
      rcases List.mem_cons.mp h with heq | h
      · exact ⟨first, List.mem_cons_self, (Prod.mk.inj heq).2.symm⟩
      · rcases List.mem_cons.mp h with heq | h
        · have hindex := (Prod.mk.inj heq).1
          omega
        · obtain ⟨address, hmem, hword⟩ := ih h
          exact ⟨address, List.mem_cons_of_mem _ hmem, hword⟩

/-- An upper half follows its lower half. -/
theorem entry_words_pair {k n : Nat} {addresses : List (BitVec 64)} {word : BitVec 32}
    (h : (n * 2 + 1, word) ∈ entryWords k addresses) :
    ∃ low, (n * 2, low) ∈ entryWords k addresses := by
  induction addresses generalizing k with
  | nil => exact absurd h List.not_mem_nil
  | cons first rest ih =>
      rcases List.mem_cons.mp h with heq | h
      · have hindex := (Prod.mk.inj heq).1
        omega
      · rcases List.mem_cons.mp h with heq | h
        · have hindex := (Prod.mk.inj heq).1
          have hsame : n * 2 = k * 2 := by omega
          exact ⟨addrLsb first, hsame ▸ List.mem_cons_self⟩
        · obtain ⟨low, hlow⟩ := ih h
          exact ⟨low, List.mem_cons_of_mem _ (List.mem_cons_of_mem _ hlow)⟩

/-- The lower half of an aligned address is no `2`. -/
theorem ValidPage.low {address : BitVec 64} (h : ValidPage address) : addrLsb address ≠ 2 := by
  intro htwo
  have haligned := h.2
  rw [htwo] at haligned
  exact absurd haligned (by decide)

/-- Whole entries of valid addresses are stored behind a page, as long as the checks pass. -/
theorem misplaced_rule :
    FaultRule misplaces (fun step => reportsBug step = true) pages where
  harmless op hop answer hcause :=
    Bool.noConfusion ((misplaces_stores hcause).symm.trans (harmless_step hop answer).2.1)
  number := bug_on_entails id _
  area := bug_on_entails id _
  refused _ := id
  table page address := by
    rintro ⟨step, hstep, hcause⟩
    have hstray := (misplaces_stores hcause).symm
    exact Bool.noConfusion (hstray.trans (ptable_fits step hstep).1)
  unmapped _ _ := id
  filled list page segments := by
    intro steps
    rintro ⟨step, hstep, hcause⟩
    rcases List.mem_cons.mp hstep with rfl | hfill
    · exact hcause.elim
    rcases mem_fill_steps.mp hfill with ⟨rfl, -⟩ | ⟨rfl, hmany⟩
    · exact hcause.elim
    -- If the checks passed, the entries behind the page were in order.
    by_cases hvalid : ∀ address ∈ mappedPages pages segments, ValidPage address
    · refine absurd (⟨?_, ?_, fun n word hword => entry_words_pair hword⟩ : EntryStores _) hcause
      · rw [List.drop_eq_getElem_cons hmany]
        exact List.cons_ne_nil _ _
      · intro n word hword
        obtain ⟨address, haddress, rfl⟩ := entry_words_even hword
        exact (hvalid address (List.mem_of_mem_drop haddress)).low
    · have hinvalid : ∃ address ∈ mappedPages pages segments, ¬ ValidPage address := by
        simpa only [not_forall, exists_prop] using hvalid
      exact ⟨bugStep, List.mem_cons_of_mem _ (mem_fill_steps.mpr (Or.inl ⟨rfl, Or.inr hinvalid⟩)),
        rfl⟩

end Rules

end Saa7231
