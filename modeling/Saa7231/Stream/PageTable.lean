import Saa7231.Interaction.Transcript
import Saa7231.Stream.Dmabuf
import Mathlib.Data.List.Basic
import Mathlib.Data.List.Induction

/-!
# The page table of a buffer

`dma_map_sg` may merge adjacent pages of a scatterlist into one segment. The nested loops of
`saa7231_dmabuf_sgpagefill` take the segments apart again under one running index, so the table
lists the pages of all segments one after the other, and the last page fills the rest of its 512
entries (`sgpagefill_table`).
-/

namespace Saa7231

open Interaction

/-! ## What `dma_map_sg` leaves -/

/-- A mapped segment: whole pages of the 64-bit bus, without the page at address zero. -/
structure DmaSegment where
  address : BitVec 64
  length : Nat
  aligned : address.toNat % saa7231PageSize = 0
  nonzero : address ≠ 0
  whole : length % saa7231PageSize = 0
  positive : 0 < length
  fits : address.toNat + length ≤ 2 ^ 64

/-- The address and the length that the scatterlist holds for the segment. -/
def DmaSegment.dma (segment : DmaSegment) : BitVec 64 × Nat := (segment.address, segment.length)

/-- The bus address of page `j` of a segment. -/
def DmaSegment.page (segment : DmaSegment) (j : Nat) : BitVec 64 :=
  segment.address + BitVec.ofNat 64 (j * saa7231PageSize)

/-- The bus addresses of the pages of a segment. -/
def DmaSegment.pages (segment : DmaSegment) : List (BitVec 64) :=
  (List.range (segment.length / saa7231PageSize)).map segment.page

/-- A scatterlist whose entries have no offsets, mapped to at least one segment and to no more
segments than it has entries. -/
structure DmaMapping where
  entries : List SgEntry
  segments : List DmaSegment
  offset : ∀ entry ∈ entries, entry.offset = 0
  mapped : segments.length ≤ entries.length
  nonempty : segments ≠ []

/-- The bus addresses of all pages of a mapping. -/
def DmaMapping.pages (mapping : DmaMapping) : List (BitVec 64) :=
  mapping.segments.flatMap DmaSegment.pages

/-! ## Reading the table -/

/-- The words of a page after some stores. -/
def pageWords (stores : List (Nat × BitVec 32)) : Nat → Option (BitVec 32) :=
  stores.foldl (fun words store => Function.update words store.1 (some store.2)) fun _ => none

/-- The address of an entry from its two words. -/
def joinWords (lsb msb : BitVec 32) : BitVec 64 :=
  BitVec.ofNat 64 (lsb.toNat + 2 ^ 32 * msb.toNat)

/-- Entry `k` of the table, if both of its words were stored. -/
def tableEntry (stores : List (Nat × BitVec 32)) (k : Nat) : Option (BitVec 64) :=
  (pageWords stores (k * 2)).bind fun lsb => (pageWords stores (k * 2 + 1)).map (joinWords lsb)

theorem join_words_halves (address : BitVec 64) :
    joinWords (addrLsb address) (addrMsb address) = address := by
  have hlsb : (addrLsb address).toNat = address.toNat % 2 ^ 32 := BitVec.toNat_setWidth _ _
  have hmsb : (addrMsb address).toNat = address.toNat / 2 ^ 32 := by
    have hlt := address.isLt
    unfold addrMsb
    rw [BitVec.truncate_eq_setWidth, BitVec.toNat_setWidth, BitVec.toNat_ushiftRight,
      Nat.shiftRight_eq_div_pow]
    omega
  apply BitVec.eq_of_toNat_eq
  unfold joinWords
  rw [BitVec.toNat_ofNat, hlsb, hmsb]
  omega

/-- Storing both words of an entry sets this entry. -/
theorem table_entry_append (stores : List (Nat × BitVec 32)) (n k : Nat) (address : BitVec 64) :
    tableEntry (stores ++ [(n * 2, addrLsb address), (n * 2 + 1, addrMsb address)]) k =
      if k = n then some address else tableEntry stores k := by
  unfold tableEntry pageWords
  rw [List.foldl_append, List.foldl_cons, List.foldl_cons, List.foldl_nil]
  generalize stores.foldl _ _ = words
  by_cases hk : k = n
  · rw [hk, Function.update_of_ne (by omega : n * 2 ≠ n * 2 + 1), Function.update_self,
      Function.update_self, if_pos rfl]
    show some (joinWords (addrLsb address) (addrMsb address)) = some address
    rw [join_words_halves]
  · rw [Function.update_of_ne (by omega : k * 2 ≠ n * 2 + 1),
      Function.update_of_ne (by omega : k * 2 ≠ n * 2),
      Function.update_of_ne (by omega : k * 2 + 1 ≠ n * 2 + 1),
      Function.update_of_ne (by omega : k * 2 + 1 ≠ n * 2), if_neg hk]

/-- The words that addresses take up from entry `k` on. -/
def entryWords : Nat → List (BitVec 64) → List (Nat × BitVec 32)
  | _, [] => []
  | k, address :: rest =>
      (k * 2, addrLsb address) :: (k * 2 + 1, addrMsb address) :: entryWords (k + 1) rest

theorem entry_words_concat (k : Nat) (done : List (BitVec 64)) (address : BitVec 64) :
    entryWords k (done ++ [address]) = entryWords k done ++
      [((k + done.length) * 2, addrLsb address), ((k + done.length) * 2 + 1, addrMsb address)] := by
  induction done generalizing k with
  | nil => rfl
  | cons first rest ih =>
      have hindex : k + (rest.length + 1) = k + 1 + rest.length := by omega
      rw [List.cons_append, entryWords, ih, entryWords, List.length_cons, hindex]
      rfl

/-- The words of the addresses of a list read back as these addresses. -/
theorem table_entry_words (done : List (BitVec 64)) (k : Nat) :
    tableEntry (entryWords 0 done) k = done[k]? := by
  induction done using List.reverseRecOn with
  | nil => rfl
  | append_singleton done address ih =>
      rw [entry_words_concat, Nat.zero_add, table_entry_append, ih, List.getElem?_append]
      by_cases hlt : k < done.length
      · rw [if_neg (by omega), if_pos hlt]
      · rw [if_neg hlt]
        by_cases heq : k = done.length
        · rw [if_pos heq, heq, Nat.sub_self]
          rfl
        · rw [if_neg heq, List.getElem?_eq_none (by omega),
            List.getElem?_eq_none (by simp only [List.length_singleton]; omega)]

/-- No word lies outside the entries of the addresses. -/
theorem entry_words_inside {k : Nat} {done : List (BitVec 64)} {store : Nat × BitVec 32}
    (h : store ∈ entryWords k done) : store.1 < (k + done.length) * 2 := by
  induction done generalizing k with
  | nil => exact absurd h List.not_mem_nil
  | cons first rest ih =>
      rw [List.length_cons]
      rcases List.mem_cons.mp h with rfl | h
      · show k * 2 < _
        omega
      · rcases List.mem_cons.mp h with rfl | h
        · show k * 2 + 1 < _
          omega
        · have hrest := ih h
          omega

/-! ## Filling the table -/

/-- An address that passes both checks of an entry. -/
def ValidPage (address : BitVec 64) : Prop :=
  address ≠ 0 ∧ (addrLsb address).toNat % saa7231PageSize = 0

instance (address : BitVec 64) : Decidable (ValidPage address) :=
  inferInstanceAs (Decidable (_ ∧ _))

/-- The addresses of the pages of a mapped segment, as they are computed. -/
def segmentPages (dma : BitVec 64 × Nat) : List (BitVec 64) :=
  (List.range ((dma.2 + (saa7231PageSize - 1)) / saa7231PageSize)).map fun j =>
    dma.1 + pageOffset j

namespace PageFill

/-- The addresses stored so far, in the page and behind its end. -/
structure Holds (fill : PageFill) (done : List (BitVec 64)) : Prop where
  offset : fill.offset = 0
  length : fill.k = done.length
  last : fill.addr = done.getLastD 0
  stores : fill.stores = entryWords 0 (done.take pageEntries)
  strays : fill.strays = entryWords pageEntries (done.drop pageEntries)

/-- Every stored address was checked. -/
structure Checks (fill : PageFill) (done : List (BitVec 64)) : Prop extends fill.Holds done where
  bug : fill.bug = false ↔ ∀ address ∈ done, ValidPage address

variable {fill : PageFill} {done : List (BitVec 64)}

/-- A store leaves the other variables alone. -/
theorem store_eq (fill : PageFill) (address : BitVec 64) : ∃ stores strays,
    fill.store address = { fill with stores := stores, strays := strays, k := fill.k + 1 } := by
  unfold store
  dsimp only
  split
  next => exact ⟨_, fill.strays, rfl⟩
  next => exact ⟨fill.stores, _, rfl⟩

@[simp] theorem store_buffer_offset (fill : PageFill) (address : BitVec 64) :
    (fill.store address).bufferOffset = fill.bufferOffset := by
  obtain ⟨stores, strays, hstore⟩ := fill.store_eq address
  rw [hstore]

@[simp] theorem store_bug (fill : PageFill) (address : BitVec 64) :
    (fill.store address).bug = fill.bug := by
  obtain ⟨stores, strays, hstore⟩ := fill.store_eq address
  rw [hstore]

/-- One more entry. The address that is remembered is set apart from the store. -/
theorem Holds.store (h : fill.Holds done) (address : BitVec 64) (bug : Bool) :
    Holds { (fill.store address) with addr := address, bug := bug } (done ++ [address]) := by
  have hlast : address = (done ++ [address]).getLastD 0 := List.getLastD_concat.symm
  have hlength : fill.k + 1 = (done ++ [address]).length := by
    rw [List.length_append, h.length]
    rfl
  unfold PageFill.store
  dsimp only
  rw [h.length]
  by_cases hroom : done.length < pageEntries
  · rw [if_pos hroom]
    refine ⟨h.offset, h.length ▸ hlength, hlast, ?_, ?_⟩
    · show fill.stores ++ _ = _
      rw [h.stores, List.take_of_length_le (Nat.le_of_lt hroom),
        List.take_of_length_le (by rw [← hlength, h.length]; exact hroom), entry_words_concat,
        Nat.zero_add]
    · show fill.strays = _
      rw [h.strays, List.drop_eq_nil_of_le (Nat.le_of_lt hroom),
        List.drop_eq_nil_of_le (by rw [← hlength, h.length]; exact hroom)]
  · rw [if_neg hroom]
    have hfull : pageEntries ≤ done.length := Nat.not_lt.mp hroom
    refine ⟨h.offset, h.length ▸ hlength, hlast, ?_, ?_⟩
    · show fill.stores = _
      rw [h.stores, List.take_append_of_le_length hfull]
    · show fill.strays ++ _ = _
      rw [h.strays, List.drop_append_of_le_length hfull, entry_words_concat, List.length_drop,
        Nat.add_sub_cancel' hfull]

/-- A page of a segment is stored and checked, since nothing is left to skip. -/
theorem Checks.page (h : fill.Checks done) {entry : SgEntry} (hentry : entry.offset = 0)
    (dmaAddress : BitVec 64) (j : Nat) :
    (PageFill.page entry dmaAddress fill j).Checks (done ++ [dmaAddress + pageOffset j]) := by
  have hskip : ¬ BitVec.ofNat 32 saa7231PageSize ≤ fill.offset + BitVec.ofNat 32 entry.offset := by
    rw [h.offset, hentry]
    decide
  have haddress : dmaAddress + pageOffset j - BitVec.ofNat 64 entry.offset =
      dmaAddress + pageOffset j := by
    rw [hentry]
    exact BitVec.sub_zero _
  unfold PageFill.page
  rw [if_neg hskip]
  dsimp only
  rw [haddress]
  refine ⟨h.store _ _, ?_⟩
  have hchecked : (fill.bug || dmaAddress + pageOffset j == 0 ||
      (addrLsb (dmaAddress + pageOffset j)).toNat % saa7231PageSize != 0) = false ↔
      fill.bug = false ∧ ValidPage (dmaAddress + pageOffset j) := by
    simp [ValidPage, and_assoc]
  simp only [List.forall_mem_append, List.forall_mem_singleton]
  rw [← h.bug]
  exact hchecked

theorem Checks.pages (h : fill.Checks done) {entry : SgEntry} (hentry : entry.offset = 0)
    (dmaAddress : BitVec 64) (n : Nat) :
    ((List.range n).foldl (PageFill.page entry dmaAddress) fill).Checks
      (done ++ (List.range n).map fun j => dmaAddress + pageOffset j) := by
  induction n with
  | zero =>
      rw [List.range_zero, List.map_nil, List.append_nil]
      exact h
  | succ n ih =>
      rw [List.range_succ, List.foldl_append, List.map_append, ← List.append_assoc]
      exact ih.page hentry dmaAddress n

/-- The body of the outer loop. -/
theorem Checks.segment (h : fill.Checks done) {entry : SgEntry} (hentry : entry.offset = 0)
    (dma : BitVec 64 × Nat) (i : Nat) :
    (fill.segment i entry dma).Checks (done ++ segmentPages dma) := by
  have hstart : ∀ start : PageFill, start.Checks done →
      ((List.range ((dma.2 + (saa7231PageSize - 1)) / saa7231PageSize)).foldl
        (PageFill.page entry dma.1) start).Checks (done ++ segmentPages dma) :=
    fun start hchecks => hchecks.pages hentry dma.1 _
  unfold PageFill.segment
  split
  next => exact hstart _ ⟨⟨h.offset, h.length, h.last, h.stores, h.strays⟩, h.bug⟩
  next =>
      refine hstart _ ⟨⟨h.offset, h.length, h.last, h.stores, h.strays⟩, ?_⟩
      simpa [hentry] using h.bug

/-- The outer loop lists the pages of all segments, one segment after the other. -/
theorem Checks.segments (h : fill.Checks done) {pairs : List (SgEntry × (BitVec 64 × Nat))}
    (hentries : ∀ pair ∈ pairs, pair.1.offset = 0) (i : Nat) :
    (fill.segments i pairs).Checks (done ++ pairs.flatMap fun pair => segmentPages pair.2) := by
  induction pairs generalizing fill done i with
  | nil =>
      rw [List.flatMap_nil, List.append_nil]
      exact h
  | cons pair rest ih =>
      obtain ⟨entry, dma⟩ := pair
      have hfirst := h.segment (hentries _ List.mem_cons_self) dma i
      rw [List.flatMap_cons, ← List.append_assoc]
      exact ih hfirst (fun other hmem => hentries other (List.mem_cons_of_mem _ hmem)) (i + 1)

/-- The padding loop repeats the last address. -/
theorem Holds.repeat_last (h : fill.Holds done) (n : Nat) :
    ((List.range n).foldl (fun fill _ => fill.store fill.addr) fill).Holds
      (done ++ List.replicate n (done.getLastD 0)) := by
  induction n with
  | zero =>
      rw [List.replicate_zero, List.append_nil]
      exact h
  | succ n ih =>
      have hlast : (done ++ List.replicate n (done.getLastD 0)).getLastD 0 = done.getLastD 0 := by
        cases n with
        | zero => rw [List.replicate_zero, List.append_nil]
        | succ n => rw [List.replicate_succ', ← List.append_assoc, List.getLastD_concat]
      rw [List.range_succ, List.foldl_append, List.replicate_succ', ← List.append_assoc]
      generalize (List.range n).foldl _ fill = padded at ih ⊢
      have haddr : padded.addr = done.getLastD 0 := ih.last.trans hlast
      have hstored := ih.store padded.addr padded.bug
      rw [haddr] at hstored
      show (padded.store padded.addr).Holds _
      rw [haddr]
      have hsame : ({ (padded.store (done.getLastD 0)) with
          addr := done.getLastD 0, bug := padded.bug } : PageFill) =
          padded.store (done.getLastD 0) := by
        obtain ⟨stores, strays, hstore⟩ := padded.store_eq (done.getLastD 0)
        rw [hstore, ← haddr]
      rwa [hsame] at hstored

/-- It checks nothing. -/
theorem pad_bug (fill : PageFill) : fill.pad.bug = fill.bug := by
  have hfold : ∀ (ks : List Nat) (start : PageFill),
      (ks.foldl (fun fill _ => fill.store fill.addr) start).bug = start.bug := by
    intro ks
    induction ks with
    | nil => exact fun _ => rfl
    | cons k ks ih =>
        intro start
        rw [List.foldl_cons, ih, store_bug]
  exact hfold _ _

/-- What the loops leave: the pages, and the last page up to entry 511. -/
theorem Holds.pad (h : fill.Holds done) :
    fill.pad.Holds (done ++ List.replicate (pageEntries - done.length) (done.getLastD 0)) := by
  unfold PageFill.pad
  rw [h.length]
  exact h.repeat_last _

/-- The empty table. -/
theorem start_checks (bufferOffset : BitVec 32) : (start bufferOffset 0).Checks [] where
  offset := rfl
  length := rfl
  last := rfl
  stores := rfl
  strays := rfl
  bug := by simp [start]

end PageFill

/-- What the loops leave behind of a scatterlist without offsets: a full table, the entries that
have no room in it, and the outcome of the checks. -/
structure PageFill.Filled (fill : PageFill) (pages : List (BitVec 64)) : Prop where
  stores : fill.stores = entryWords 0 ((pages ++
    List.replicate (pageEntries - pages.length) (pages.getLastD 0)).take pageEntries)
  strays : fill.strays = entryWords pageEntries (pages.drop pageEntries)
  bug : fill.bug = false ↔ ∀ address ∈ pages, ValidPage address

theorem filled_segments (bufferOffset : BitVec 32)
    {pairs : List (SgEntry × (BitVec 64 × Nat))} (hentries : ∀ pair ∈ pairs, pair.1.offset = 0) :
    ((PageFill.start bufferOffset 0).segments 0 pairs).pad.Filled
      (pairs.flatMap fun pair => segmentPages pair.2) := by
  have hchecks := (PageFill.start_checks bufferOffset).segments hentries 0
  rw [List.nil_append] at hchecks
  generalize pairs.flatMap _ = pages at hchecks ⊢
  have hholds := hchecks.toHolds.pad
  refine ⟨hholds.stores, ?_, ?_⟩
  · rw [hholds.strays]
    -- Either nothing was padded, or everything fits.
    by_cases hfits : pages.length ≤ pageEntries
    · rw [List.drop_eq_nil_of_le hfits, List.drop_eq_nil_of_le]
      rw [List.length_append, List.length_replicate]
      omega
    · rw [Nat.sub_eq_zero_of_le (Nat.le_of_not_le hfits), List.replicate_zero, List.append_nil]
  · rw [PageFill.pad_bug]
    exact hchecks.bug

/-! ## The whole function -/

/-- Below 2 GiB the offset of a page does not overflow. -/
theorem page_offset_eq {j : Nat} (hj : j < pageEntries) :
    pageOffset j = BitVec.ofNat 64 (j * saa7231PageSize) := by
  have hsmall : j * saa7231PageSize < 2 ^ 31 := by
    unfold pageEntries at hj
    unfold saa7231PageSize at hj ⊢
    omega
  unfold pageOffset
  generalize j * saa7231PageSize = offset at hsmall
  have hmsb : (BitVec.ofNat 32 offset).msb = false := by
    rw [BitVec.msb_eq_false_iff_two_mul_lt, BitVec.toNat_ofNat]
    omega
  rw [BitVec.signExtend_eq_setWidth_of_msb_false hmsb]
  apply BitVec.eq_of_toNat_eq
  rw [BitVec.toNat_setWidth, BitVec.toNat_ofNat, BitVec.toNat_ofNat]
  omega

/-- The pages of a segment do not leave it, so they pass the checks. -/
theorem DmaSegment.valid_page (segment : DmaSegment) {j : Nat}
    (hj : j < segment.length / saa7231PageSize) : ValidPage (segment.page j) := by
  obtain ⟨address, length, haligned, hnonzero, hwhole, hpositive, hfits⟩ := segment
  have hzero : address.toNat ≠ 0 := fun h => hnonzero (BitVec.eq_of_toNat_eq h)
  unfold saa7231PageSize at haligned hwhole hj
  have hpage : (address + BitVec.ofNat 64 (j * saa7231PageSize)).toNat =
      address.toNat + j * 4096 := by
    unfold saa7231PageSize
    rw [BitVec.toNat_add, BitVec.toNat_ofNat]
    dsimp only at hj
    omega
  constructor
  · show address + BitVec.ofNat 64 (j * saa7231PageSize) ≠ 0
    intro h
    rw [h] at hpage
    have hleft : (0 : BitVec 64).toNat = 0 := rfl
    omega
  · have hlsb : (addrLsb (address + BitVec.ofNat 64 (j * saa7231PageSize))).toNat =
        (address.toNat + j * 4096) % 2 ^ 32 := by
      rw [← hpage]
      exact BitVec.toNat_setWidth _ _
    show (addrLsb (address + BitVec.ofNat 64 (j * saa7231PageSize))).toNat % 4096 = 0
    rw [hlsb]
    omega

/-- The computed pages of a segment are its pages, unless there are more than a table holds. -/
theorem DmaSegment.segment_pages (segment : DmaSegment)
    (hfew : segment.length / saa7231PageSize ≤ pageEntries) :
    segmentPages segment.dma = segment.pages := by
  have hpages : (segment.length + (saa7231PageSize - 1)) / saa7231PageSize =
      segment.length / saa7231PageSize := by
    have hwhole := segment.whole
    unfold saa7231PageSize at hwhole ⊢
    omega
  unfold segmentPages DmaSegment.pages
  show (List.range ((segment.length + _) / _)).map _ = _
  rw [hpages]
  refine List.map_congr_left fun j hj => ?_
  rw [page_offset_eq (Nat.lt_of_lt_of_le (List.mem_range.mp hj) hfew)]
  rfl

namespace DmaMapping

variable (mapping : DmaMapping)

/-- Every mapping has a page. -/
theorem last_page : mapping.pages.getLast? = some (mapping.pages.getLastD 0) := by
  have hpages : mapping.pages ≠ [] := by
    obtain ⟨segment, hsegment⟩ := List.exists_mem_of_ne_nil _ mapping.nonempty
    have hcount : 0 < segment.length / saa7231PageSize := by
      have hwhole := segment.whole
      have hpositive := segment.positive
      unfold saa7231PageSize at hwhole ⊢
      omega
    have hfirst : segment.page 0 ∈ mapping.pages :=
      List.mem_flatMap.mpr ⟨segment, hsegment, List.mem_map.mpr ⟨0, List.mem_range.mpr hcount, rfl⟩⟩
    exact List.ne_nil_of_mem hfirst
  rw [List.getLastD_eq_getLast?, List.getLast?_eq_some_getLast hpages]
  rfl

theorem valid_pages {address : BitVec 64} (h : address ∈ mapping.pages) : ValidPage address := by
  obtain ⟨segment, -, hpage⟩ := List.mem_flatMap.mp h
  obtain ⟨j, hj, rfl⟩ := List.mem_map.mp hpage
  exact segment.valid_page (List.mem_range.mp hj)

/-- Every segment has an entry, so the loops visit the pages of the mapping. -/
theorem visited_pages (hfew : mapping.pages.length ≤ pageEntries) :
    ((mapping.entries.zip (mapping.segments.map DmaSegment.dma)).flatMap fun pair =>
      segmentPages pair.2) = mapping.pages := by
  have hsegments : (mapping.entries.zip (mapping.segments.map DmaSegment.dma)).map Prod.snd =
      mapping.segments.map DmaSegment.dma :=
    List.map_snd_zip (by rw [List.length_map]; exact mapping.mapped)
  have hflat := congrArg (List.flatMap segmentPages) hsegments
  rw [List.flatMap_map, List.flatMap_map] at hflat
  rw [hflat]
  refine List.flatMap_congr fun segment hsegment => segment.segment_pages ?_
  have hpart : segment.pages.Sublist mapping.pages :=
    List.sublist_flatten_of_mem (List.mem_map.mpr ⟨segment, hsegment, rfl⟩)
  have hlength := hpart.length_le
  rw [DmaSegment.pages, List.length_map, List.length_range] at hlength
  exact Nat.le_trans hlength hfew

end DmaMapping

/-- On every mapping of at most 512 pages, without pages to skip, the table gets the pages of
the segments in their order, and the last page in every entry behind them. No word outside the
table is stored and no `BUG_ON` fires. -/
theorem sgpagefill_table (env : Environment) (board : Board) (dmabuf : Dmabuf)
    (mapping : DmaMapping) (hpages : mapping.pages.length ≤ 512) :
    let fill := dmabufSgpagefill dmabuf mapping.entries (mapping.segments.map DmaSegment.dma) 0
    let result := fill.run (boardWorld env) board
    result.2.bugs = board.bugs ∧
      (∀ k < mapping.pages.length, tableEntry result.1.table k = mapping.pages[k]?) ∧
      (∀ k < 512, mapping.pages.length ≤ k →
        tableEntry result.1.table k = mapping.pages.getLast?) ∧
      (∀ store ∈ result.1.table, store.1 * 4 < saa7231PageSize) ∧
      fill.transcript (boardWorld env) board = [] := by
  have hentries : ∀ pair ∈ mapping.entries.zip (mapping.segments.map DmaSegment.dma),
      pair.1.offset = 0 := fun pair hpair => mapping.offset _ (List.of_mem_zip hpair).1
  have hfilled := filled_segments dmabuf.offset hentries
  rw [mapping.visited_pages hpages] at hfilled
  have hempty : (mapping.segments.map DmaSegment.dma).isEmpty = false := by
    simp [mapping.nonempty]
  have hstrays := hfilled.strays
  have hfew : mapping.pages.length ≤ pageEntries := hpages
  rw [List.drop_eq_nil_of_le hfew] at hstrays
  have hbug := hfilled.bug.mpr fun _ => mapping.valid_pages
  -- All 512 entries: the pages of the segments, then copies of the last one.
  have hlength : (mapping.pages ++ List.replicate (pageEntries - mapping.pages.length)
      (mapping.pages.getLastD 0)).length = 512 := by
    rw [List.length_append, List.length_replicate]
    exact Nat.add_sub_cancel' hpages
  have hstores := hfilled.stores
  have htaken : (mapping.pages ++ List.replicate (pageEntries - mapping.pages.length)
      (mapping.pages.getLastD 0)).length ≤ pageEntries := Nat.le_of_eq hlength
  rw [List.take_of_length_le htaken] at hstores
  intro fill result
  have hfill : fill = pure { dmabuf with
      offset := ((PageFill.start dmabuf.offset 0).segments 0
        (mapping.entries.zip (mapping.segments.map DmaSegment.dma))).pad.bufferOffset
      table := entryWords 0 (mapping.pages ++ List.replicate (pageEntries - mapping.pages.length)
        (mapping.pages.getLastD 0)) } := by
    show dmabufSgpagefill _ _ _ _ = _
    unfold dmabufSgpagefill
    dsimp only
    rw [hempty, hstrays, hbug, hstores]
    rfl
  have hrun : result = _ := congrArg (fun program => program.run (boardWorld env) board) hfill
  rw [hrun]
  refine ⟨rfl, fun k hk => ?_, fun k hk hbehind => ?_, fun store hstore => ?_, hfill ▸ rfl⟩
  · show tableEntry (entryWords 0 _) k = _
    rw [table_entry_words, List.getElem?_append_left hk]
  · show tableEntry (entryWords 0 _) k = _
    rw [table_entry_words, List.getElem?_append_right hbehind, List.getElem?_replicate,
      if_pos (by unfold pageEntries saa7231PageSize; omega), mapping.last_page]
  · have hinside := entry_words_inside hstore
    rw [hlength] at hinside
    unfold saa7231PageSize
    omega

/-- A segment of two merged pages and one of a single page, in a scatterlist of three. -/
def threePages : DmaMapping where
  entries := List.replicate 3 ⟨saa7231PageSize, 0⟩
  segments :=
    [⟨0xfffff000, 8192, by decide, by decide, by decide, by decide, by decide⟩,
      ⟨0x200000, 4096, by decide, by decide, by decide, by decide, by decide⟩]
  offset := by decide
  mapped := by decide
  nonempty := List.cons_ne_nil _ _

/-- The second page lies behind the first four gigabytes, and entry 511 holds the third. -/
theorem sgpagefill_three_pages :
    ∃ filled : Dmabuf,
      ((dmabufSgpagefill .zero threePages.entries (threePages.segments.map DmaSegment.dma) 0).run
        (boardWorld .plain) .reset).1 = filled ∧
      tableEntry filled.table 1 = some 0x100000000 ∧
      tableEntry filled.table 511 = some 0x200000 := by
  obtain ⟨-, hpages, hlast, -, -⟩ := sgpagefill_table .plain .reset .zero threePages (by decide)
  exact ⟨_, rfl, (hpages 1 (by decide)).trans (by decide),
    (hlast 511 (by decide) (by decide)).trans (by decide)⟩

end Saa7231
