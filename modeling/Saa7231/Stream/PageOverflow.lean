import Saa7231.Stream.ExitBalance
import Saa7231.Stream.InitFaults

/-!
# What stores behind a page table do to the exit

A page table has room for 512 pages, and `saa7231_dmabuf_sgpagefill` stores the others behind it.
There may lie the array of the buffers, whose first word is the type of the first buffer. The exit
frees the memory of a buffer only if its type is that of an internal one. So a stream is sure to be
released exactly if no scatterlist is mapped to more than 512 pages (`exit_releases_owned_iff`).
-/

namespace Saa7231

open Interaction Bus Program

/-! ## Where the stores go -/

/-- Where the array of the buffers lies: behind which page, and how many words from its start. -/
structure ArrayPlace where
  page : Option Nat
  start : Nat

/-- The words that are stored behind a page, in order. -/
def wordsBehind (page : Option Nat) (steps : List BoardStep) : List (Nat × BitVec 32) :=
  steps.flatMap fun
    | ⟨.extra (.strayStores stored words), _⟩ => if stored = page then words else []
    | _ => []

/-- The words of the array that are stored, by their places in it. -/
def ArrayPlace.hits (place : ArrayPlace) (steps : List BoardStep) : List (Nat × BitVec 32) :=
  (wordsBehind place.page steps).filterMap fun hit =>
    if place.start ≤ hit.1 then some (hit.1 - place.start, hit.2) else none

/-- The last word stored at the start of the array. -/
def headWord (hits : List (Nat × BitVec 32)) : Option (BitVec 32) :=
  ((hits.filter fun hit => hit.1 == 0).getLast?).map Prod.snd

/-- The first buffer has the type that a word stands for. -/
def Stream.retype (stream : Stream) : Option (BitVec 32) → Stream
  | none => stream
  | some word =>
      { stream with
        ring := { stream.ring with
          dmabuf := stream.ring.dmabuf.modifyHead fun dmabuf =>
            { dmabuf with dmaType := .ofWord word } } }

/-- What an initialisation leaves of a stream when words of its array were stored behind a page.
The first word is the type of the first buffer, set before any page table is filled, and the second
is padding. Behind them lie pointers, and nothing is said of a stream that loses these. -/
def Overwrites (hits : List (Nat × BitVec 32)) (stream stream' : Stream) : Prop :=
  (∀ hit ∈ hits, hit.1 < 2) → stream' = stream.retype (headWord hits)

theorem mem_words_behind {page : Option Nat} {steps : List BoardStep} {hit : Nat × BitVec 32} :
    hit ∈ wordsBehind page steps ↔
      ∃ words, ⟨.extra (.strayStores page words), ()⟩ ∈ steps ∧ hit ∈ words := by
  unfold wordsBehind
  rw [List.mem_flatMap]
  constructor
  · rintro ⟨⟨op, answer⟩, hstep, hhit⟩
    cases op with
    | extra op =>
        cases op with
        | strayStores stored words =>
            dsimp only at hhit
            split at hhit
            next hpage => exact ⟨words, hpage ▸ hstep, hhit⟩
            next => exact absurd hhit List.not_mem_nil
        | _ => exact absurd hhit List.not_mem_nil
    | _ => exact absurd hhit List.not_mem_nil
  · rintro ⟨words, hstep, hhit⟩
    refine ⟨_, hstep, ?_⟩
    show hit ∈ if page = page then words else []
    rwa [if_pos rfl]

/-- Without stores behind a page the array stays as it is. -/
theorem overwrites_nothing {steps : List BoardStep}
    (hsteps : ∀ step ∈ steps, storesBehind step = false) {place : ArrayPlace}
    {stream stream' : Stream} (h : Overwrites (place.hits steps) stream stream') :
    stream' = stream := by
  have hwords : wordsBehind place.page steps = [] := by
    refine List.eq_nil_iff_forall_not_mem.mpr fun hit hhit => ?_
    obtain ⟨words, hstep, -⟩ := mem_words_behind.mp hhit
    exact Bool.noConfusion (hsteps _ hstep : true = false)
  have hhits : place.hits steps = [] := by
    unfold ArrayPlace.hits
    rw [hwords]
    rfl
  rw [hhits] at h
  exact h fun hit hhit => absurd hhit List.not_mem_nil

/-- The stores behind one page are words of whole entries, if those of every step are. -/
theorem entries_behind {steps : List BoardStep} (hplaced : ∀ step ∈ steps, ¬ misplaces step)
    {stray : BoardStep} (hstray : stray ∈ steps) (hstores : storesBehind stray = true) :
    ∃ page, EntryStores (wordsBehind page steps) := by
  have hentries : ∀ page words, ⟨.extra (.strayStores page words), ()⟩ ∈ steps →
      EntryStores words := fun page words hstep => not_not.mp (hplaced _ hstep)
  obtain ⟨op, answer⟩ := stray
  cases op with
  | extra op =>
      cases op with
      | strayStores page words =>
          refine ⟨page, ?_, ?_, ?_⟩
          · obtain ⟨hit, hhit⟩ := List.exists_mem_of_ne_nil _ (hentries page words hstray).some
            exact List.ne_nil_of_mem (mem_words_behind.mpr ⟨words, hstray, hhit⟩)
          · intro n word hword
            obtain ⟨stored, hstep, hmem⟩ := mem_words_behind.mp hword
            exact (hentries page stored hstep).low n word hmem
          · intro n word hword
            obtain ⟨stored, hstep, hmem⟩ := mem_words_behind.mp hword
            obtain ⟨low, hlow⟩ := (hentries page stored hstep).pair n word hmem
            exact ⟨low, mem_words_behind.mpr ⟨stored, hstep, hlow⟩⟩
      | _ => exact Bool.noConfusion hstores
  | _ => exact Bool.noConfusion hstores

/-- The last of the entries: nothing is stored behind its two words. -/
theorem EntryStores.last {words : List (Nat × BitVec 32)} (h : EntryStores words) :
    ∃ n, (∃ word, (n * 2, word) ∈ words) ∧ ∀ hit ∈ words, hit.1 < n * 2 + 2 := by
  have hsome : (words.map fun hit => hit.1 / 2) ≠ [] :=
    fun hnil => h.some (List.map_eq_nil_iff.mp hnil)
  obtain ⟨n, hmax⟩ := Option.ne_none_iff_exists'.mp (mt List.max?_eq_none_iff.mp hsome)
  obtain ⟨hmem, hle⟩ := List.max?_eq_some_iff.mp hmax
  refine ⟨n, ?_, fun hit hhit => ?_⟩
  · obtain ⟨⟨index, word⟩, hhit, rfl⟩ := List.mem_map.mp hmem
    rcases Nat.mod_two_eq_zero_or_one index with heven | hodd
    · have hindex : index / 2 * 2 = index := by omega
      exact ⟨word, hindex.symm ▸ hhit⟩
    · have hindex : index / 2 * 2 + 1 = index := by omega
      exact h.pair (index / 2) word (hindex.symm ▸ hhit)
  · have hbelow := hle _ (List.mem_map.mpr ⟨hit, hhit, rfl⟩)
    omega

/-- Where the array begins with the last entry, the first buffer gets another type. -/
theorem exists_overwritten {steps : List BoardStep} {page : Option Nat}
    (h : EntryStores (wordsBehind page steps)) (stream : Stream) :
    ∃ place : ArrayPlace, ∃ word, word ≠ 2 ∧
      Overwrites (place.hits steps) stream (stream.retype (some word)) := by
  obtain ⟨n, ⟨first, hfirst⟩, hlast⟩ := h.last
  have hmem : ∀ hit, hit ∈ (ArrayPlace.mk page (n * 2)).hits steps ↔
      (hit.1 + n * 2, hit.2) ∈ wordsBehind page steps := by
    rintro ⟨index, word⟩
    unfold ArrayPlace.hits
    rw [List.mem_filterMap]
    constructor
    · rintro ⟨stored, hstored, heq⟩
      obtain ⟨hle, heq⟩ := (Option.ite_none_right_eq_some).mp heq
      cases heq
      rwa [Nat.sub_add_cancel hle]
    · intro hstored
      exact ⟨_, hstored, by simp⟩
  have hhead : ∃ word, headWord ((ArrayPlace.mk page (n * 2)).hits steps) = some word := by
    unfold headWord
    refine Option.ne_none_iff_exists'.mp fun hnone => ?_
    have hempty := List.getLast?_eq_none_iff.mp (Option.map_eq_none_iff.mp hnone)
    refine absurd rfl (List.filter_eq_nil_iff.mp hempty (0, first) ((hmem _).mpr ?_))
    rwa [Nat.zero_add]
  obtain ⟨word, hword⟩ := hhead
  refine ⟨⟨page, n * 2⟩, word, ?_, fun _ => by rw [hword]⟩
  obtain ⟨⟨index, stored⟩, hlaststored, rfl⟩ := Option.map_eq_some_iff.mp hword
  obtain ⟨hhit, hzero⟩ := List.mem_filter.mp (List.mem_of_getLast? hlaststored)
  have hindex : index = 0 := beq_iff_eq.mp hzero
  have hbehind := (hmem _).mp hhit
  rw [hindex, Nat.zero_add] at hbehind
  exact h.low n stored hbehind

/-! ## What the exit then leaves -/

/-- Any operation but the release of one resource. -/
abbrev Spares (resource : Resource) : BusOp BoardOp → Prop :=
  WritesIn (fun _ => True) fun op => op = .bug ∨ ∃ other ≠ resource, op = .release other

section Spares

variable {env : Environment} {mem : Nat}

/-- A resource that is not released stays live. -/
theorem spared_live {program : BoardProgram Unit} {resource : Resource}
    (honly : program.Only (Spares resource)) {board : Board}
    (hlive : board.live resource = true) :
    (program.run (boardWorld env) board).2.live resource = true := by
  refine Program.run_invariant honly (I := fun board : Board => board.live resource = true) ?_ hlive
  intro op board hop hlive
  cases op with
  | extra op =>
      rcases hop with rfl | ⟨other, hne, rfl⟩
      · exact hlive
      · exact (Function.update_of_ne hne.symm _ _).trans hlive
  | _ => exact hlive

theorem spares_release {other : Resource} (hne : other ≠ .vmem mem) :
    (release other).Only (Spares (.vmem mem)) :=
  ⟨Or.inr ⟨other, hne, rfl⟩, fun _ => trivial⟩

theorem spares_release_some {other : Option Resource} (hne : other ≠ some (.vmem mem)) :
    (releaseSome other).Only (Spares (.vmem mem)) := by
  cases other with
  | none => trivial
  | some other => exact spares_release fun heq => hne (congrArg some heq)

/-- Freeing a buffer leaves any memory but that of an internal buffer. -/
theorem spares_dmabuf_free {dmabuf : Dmabuf}
    (hother : dmabuf.dmaType = .int → dmabuf.vmalloc ≠ some mem) :
    (dmabufFree dmabuf).Only (Spares (.vmem mem)) := by
  have htable : ∀ dmabuf, (freePtable dmabuf).Only (Spares (.vmem mem)) := by
    intro dmabuf
    refine Only.bind (spares_release_some ?_) fun _ => spares_release_some ?_
    · split <;> simp
    · cases dmabuf.ptVirt <;> simp
  have hlist : ∀ unmapped : Dmabuf, unmapped.dmaType = dmabuf.dmaType →
      unmapped.vmalloc = dmabuf.vmalloc →
        (dmabufFreeList unmapped).Only (Spares (.vmem mem)) := by
    intro unmapped htype hmemory
    unfold dmabufFreeList
    rw [only_ite]
    refine ⟨fun _ => ?_, fun _ => trivial⟩
    refine Only.bind ?_ fun _ => Only.bind (spares_release_some ?_) fun _ =>
      Only.bind (spares_release_some ?_) fun _ => trivial
    · cases unmapped.sgList with
      | none => exact ⟨Or.inl rfl, fun _ => trivial⟩
      | some list => trivial
    · rw [htype, hmemory]
      split
      next hint => cases hmem : dmabuf.vmalloc <;> simp_all
      next => simp
    · cases unmapped.sgList <;> simp
  have hunmap : (dmabufUnmap dmabuf).Only (Spares (.vmem mem)) ∧ (dmabufUnmap dmabuf).Yields
      fun unmapped => unmapped.dmaType = dmabuf.dmaType ∧ unmapped.vmalloc = dmabuf.vmalloc := by
    unfold dmabufUnmap
    cases dmabuf.sgList with
    | none => exact ⟨trivial, rfl, rfl⟩
    | some list =>
        dsimp only
        split
        next => exact ⟨Only.bind (spares_release (by simp)) fun _ => trivial, fun _ => ⟨rfl, rfl⟩⟩
        next => exact ⟨trivial, rfl, rfl⟩
  refine hunmap.1.bind_yields hunmap.2 fun unmapped hsame => ?_
  refine Only.bind (hlist unmapped hsame.1 hsame.2) fun freed => ?_
  refine Only.bind (htable freed) fun _ => ?_
  trivial

/-- So does the exit of a stream. -/
theorem spares_stream_exit {stream : Stream}
    (hother : ∀ dmabuf ∈ stream.ring.dmabuf, dmabuf.dmaType = .int → dmabuf.vmalloc ≠ some mem) :
    (streamExit stream).Only (Spares (.vmem mem)) := by
  have hbuffers : ∀ buffers : List Dmabuf,
      (∀ dmabuf ∈ buffers, dmabuf.dmaType = .int → dmabuf.vmalloc ≠ some mem) →
        (freeBuffers buffers).Only (Spares (.vmem mem)) := by
    intro buffers hfree
    induction buffers with
    | nil => trivial
    | cons dmabuf rest ih =>
        refine Only.bind (spares_dmabuf_free (hfree dmabuf List.mem_cons_self)) fun _ => ?_
        exact Only.bind (ih fun other hmem => hfree other (List.mem_cons_of_mem _ hmem))
          fun _ => trivial
  unfold streamExit
  cases stream.ops with
  | unset => trivial
  | ts2dtl =>
      refine Only.bind ?_ fun _ => spares_release (by simp)
      refine Only.bind (hbuffers _ fun dmabuf hmem => hother dmabuf (List.mem_of_mem_take hmem))
        fun _ => ?_
      refine Only.bind (spares_release (by simp)) fun _ => ?_
      exact Only.bind (spares_release (by simp)) fun _ => trivial

end Spares

/-! ## When a stream is sure to be released -/

/-- Every `BUG_ON` of a run is counted. -/
theorem bugs_transcript {α : Type} (env : Environment) (program : BoardProgram α) (board : Board) :
    (program.run (boardWorld env) board).2.bugs =
      board.bugs + (program.transcript (boardWorld env) board).countP reportsBug := by
  induction program generalizing board with
  | ret value => rfl
  | call op next ih =>
      refine (ih _ _).trans ?_
      show _ = board.bugs + List.countP reportsBug (⟨op, _⟩ :: _)
      rw [List.countP_cons]
      cases op with
      | extra op => cases op <;> first | rfl | exact Nat.add_right_comm ..
      | _ => rfl

/-- The operations of the initialisation of a transport stream, with their answers. -/
def initSteps (env : Environment) (before : Board) (config : TsConfig) (adapType : AdapterType)
    (count pages : Nat) : List BoardStep :=
  (streamInit config .digitalCapture adapType count pages).transcript (boardWorld env) before

/-- No scatterlist is mapped to more pages than a table has entries. -/
def TablesFit (env : Environment) (before : Board) (config : TsConfig) (adapType : AdapterType)
    (count pages : Nat) : Prop :=
  ∀ step ∈ initSteps env before config adapType count pages, overfull step = false

instance (env : Environment) (before : Board) (config : TsConfig) (adapType : AdapterType)
    (count pages : Nat) : Decidable (TablesFit env before config adapType count pages) :=
  inferInstanceAs (Decidable (∀ step ∈ _, _))

/-- Wherever the array of the buffers lies, the exit releases what the stream owns, after any
events. -/
def Stream.SureRelease (before initialised : Board) (steps : List BoardStep) (stream : Stream) :
    Prop :=
  ∀ (place : ArrayPlace) (left : Stream), Overwrites (place.hits steps) stream left →
    ∀ (events : List StreamEvent) (envExit : Environment),
      let used := events.foldl Stream.step (left, initialised)
      stream.OwnsSixteen ∧
        Stream.ExitBalanced before initialised used.2
          ((streamExit used.1).run (boardWorld envExit) used.2).2 stream.resources

section Release

variable {env : Environment} {config : TsConfig} {adapType : AdapterType} {count pages : Nat}
  {before initialised : Board} {stream : Stream}

/-- A first buffer of another type keeps its memory at the exit. -/
theorem retyped_exit_leaves (hfresh : stream.OwnsSixteen) (hnodup : stream.resources.Nodup)
    {word : BitVec 32} (hword : word ≠ 2) :
    ∃ mem, .vmem mem ∈ stream.resources ∧ ∀ (envExit : Environment) (board : Board),
      board.live (.vmem mem) = true →
        ((streamExit (stream.retype (some word))).run (boardWorld envExit) board).2.live
          (.vmem mem) = true := by
  have htype : DmaType.ofWord word ≠ .int := by
    unfold DmaType.ofWord
    split_ifs <;> simp
  cases hring : stream.ring.dmabuf with
  | nil =>
      have hlength := hfresh.length
      rw [hring] at hlength
      cases hlength
  | cons first rest =>
      obtain ⟨list, mem, virt, -, howned⟩ :=
        hfresh.buffer first (hring ▸ List.mem_cons_self)
      have hmem : Resource.vmem mem ∈ first.resources := by
        rw [howned]
        simp
      unfold Stream.resources at hnodup ⊢
      rw [hring, List.flatMap_cons, List.append_assoc] at hnodup ⊢
      refine ⟨mem, List.mem_append_left _ hmem, fun envExit board hlive => ?_⟩
      refine spared_live (spares_stream_exit fun dmabuf hbuffer hint => ?_) hlive
      have hretyped : (stream.retype (some word)).ring.dmabuf =
          { first with dmaType := .ofWord word } :: rest := by
        unfold Stream.retype
        rw [hring]
        rfl
      rw [hretyped] at hbuffer
      rcases List.mem_cons.mp hbuffer with rfl | hlater
      · exact absurd hint htype
      · -- No other buffer owns this memory.
        intro hvmalloc
        have hother : Resource.vmem mem ∈ dmabuf.resources := by
          simp [Dmabuf.resources, Dmabuf.allocations, hvmalloc]
        exact (List.nodup_append.mp hnodup).2.2 _ hmem _ (List.mem_append_left _
          (List.mem_flatMap.mpr ⟨dmabuf, hlater, hother⟩)) rfl

/-- No check fails in a successful initialisation. -/
theorem no_bug_reported
    (hinit : (streamInit config .digitalCapture adapType count pages).run (boardWorld env) before =
      (some stream, initialised)) (hbugs : initialised.bugs = before.bugs) :
    ¬ ∃ step ∈ initSteps env before config adapType count pages, reportsBug step = true := by
  have hcounted := bugs_transcript env (streamInit config .digitalCapture adapType count pages)
    before
  rw [hinit, hbugs] at hcounted
  rintro ⟨step, hstep, hbug⟩
  have hcount := List.countP_eq_zero.mp (Nat.left_eq_add.mp hcounted) step hstep
  exact hcount hbug

/-- A table that overflows can make the exit leave memory. -/
theorem overfull_not_released
    (hinit : (streamInit config .digitalCapture adapType count pages).run (boardWorld env) before =
      (some stream, initialised)) (hbugs : initialised.bugs = before.bugs)
    (hover : ¬ TablesFit env before config adapType count pages) :
    ¬ stream.SureRelease before initialised
      (initSteps env before config adapType count pages) := by
  have hnone := no_bug_reported hinit hbugs
  have hsteps : Produces (streamInit config .digitalCapture adapType count pages)
      (initSteps env before config adapType count pages) _ := produces_run _ _ _
  obtain ⟨step, hstep, hfull⟩ : ∃ step ∈ initSteps env before config adapType count pages,
      overfull step = true := by
    simpa [TablesFit] using hover
  -- The words behind some page are in order, for no check failed.
  obtain ⟨stray, hstray, hstores⟩ :=
    (overfull_rule.stream_init config adapType count).produces hsteps ⟨step, hstep, hfull⟩
  have hplaced : ∀ step ∈ initSteps env before config adapType count pages, ¬ misplaces step :=
    fun step hstep hcause => hnone
      ((misplaced_rule.stream_init config adapType count).produces hsteps ⟨step, hstep, hcause⟩)
  obtain ⟨page, hentries⟩ := entries_behind hplaced hstray hstores
  obtain ⟨place, word, hword, hoverwrites⟩ := exists_overwritten hentries stream
  intro hsure
  obtain ⟨hsixteen, hbalanced⟩ := hsure place _ hoverwrites [] env
  obtain ⟨mem, hmem, hkept⟩ := retyped_exit_leaves hsixteen hbalanced.nodup hword
  have hlive := hkept env initialised ((hbalanced.acquired _).mpr (Or.inr hmem))
  exact ((hbalanced.left _).mp hlive).2 hmem

/-- After a successful initialisation and any sequence of events, the exit of a transport stream is
sure to release exactly what the stream owns, everything once, if and only if no page table
overflowed. -/
theorem exit_releases_owned_iff
    (hinit : (streamInit config .digitalCapture adapType count pages).run (boardWorld env) before =
      (some stream, initialised)) (hbugs : initialised.bugs = before.bugs) :
    stream.SureRelease before initialised (initSteps env before config adapType count pages) ↔
      TablesFit env before config adapType count pages := by
  constructor
  · intro hsure
    by_contra hover
    exact overfull_not_released hinit hbugs hover hsure
  · intro hfit place left hoverwrites events envExit
    have hsteps : Produces (streamInit config .digitalCapture adapType count pages)
        (initSteps env before config adapType count pages) _ := produces_run _ _ _
    have hinside : ∀ step ∈ initSteps env before config adapType count pages,
        storesBehind step = false := by
      intro step hstep
      by_contra hstray
      obtain ⟨full, hfull, hover⟩ := (stray_rule.stream_init config adapType count).produces hsteps
        ⟨step, hstep, Bool.not_eq_false _ ▸ hstray⟩
      exact Bool.noConfusion (hover.symm.trans (hfit full hfull))
    rw [overwrites_nothing hinside hoverwrites]
    exact stream_exit_releases_owned hinit hbugs events envExit

end Release

/-- The first external stream, wherever its array lies. -/
theorem plain_exit_balanced :
    ∃ stream, plainInit = (some stream, plainInit.2) ∧
      stream.SureRelease .reset plainInit.2
        (initSteps .plain .reset ⟨0, 0, 0, 0⟩ .external 0 tsPages188) := by
  obtain ⟨stream, hinit⟩ := plain_init
  exact ⟨stream, hinit, (exit_releases_owned_iff hinit (by decide +kernel)).mpr
    (by decide +kernel)⟩

/-- An environment in which a scatterlist is mapped to one segment of 513 pages. -/
def Environment.long : Environment :=
  { Environment.plain with segments := fun _ => .ok [(0x100000, 513 * 4096)] }

/-- The first external stream with buffers of 513 pages. -/
def longInit : Option Stream × Board :=
  (streamInit ⟨0, 0, 0, 0⟩ .digitalCapture .external 0 513).run (boardWorld .long) .reset

/-- Its initialisation succeeds, and where the array lies behind the first page table, the memory of
the first buffer is not released. -/
theorem long_exit_leaks :
    ∃ stream, longInit = (some stream, longInit.2) ∧ longInit.2.bugs = Board.reset.bugs ∧
      ¬ stream.SureRelease .reset longInit.2
        (initSteps .long .reset ⟨0, 0, 0, 0⟩ .external 0 513) := by
  have hsome : longInit.1.isSome = true := by decide +kernel
  obtain ⟨stream, hstream⟩ := Option.isSome_iff_exists.mp hsome
  have hinit : longInit = (some stream, longInit.2) := by rw [← hstream]
  have hbugs : longInit.2.bugs = Board.reset.bugs := by decide +kernel
  exact ⟨stream, hinit, hbugs, overfull_not_released hinit hbugs (by decide +kernel)⟩

end Saa7231
