import Saa7231.Hardware.AddressMap
import Saa7231.Hardware.Board
import Mathlib.Algebra.Group.Nat.Defs

/-!
# DMA buffers (`saa7231_dmabuf.c`)

A buffer is a page-table page mapped for the device, a `vmalloc` area, and a scatterlist of
its pages, mapped as well. `dmabufAlloc` builds it and fills the page table; `dmabufFree`
takes it down. The page has room for 512 entries; nothing stops `dmabufSgpagefill` from storing
more.
-/

namespace Saa7231

open Interaction

def saa7231PageSize : Nat := 4096

/-- `CALC_PAGES`. -/
def calcPages (pitch lines : Nat) : Nat :=
  if pitch * lines % saa7231PageSize ≠ 0 then
    pitch * lines / saa7231PageSize + 1
  else
    pitch * lines / saa7231PageSize

/-- `enum saa7231_dma_type`. -/
inductive DmaType where
  | extLin
  | extSg
  | int
  /-- A word that none of the enumerators has as its value. -/
  | invalid (word : BitVec 32)
  deriving DecidableEq

/-- The content of a field of the enumeration. -/
def DmaType.ofWord (word : BitVec 32) : DmaType :=
  if word = 0 then
    .extLin
  else if word = 1 then
    .extSg
  else if word = 2 then
    .int
  else
    .invalid word

/-- The length and offset that `sg_set_page` stores in a scatterlist entry. -/
structure SgEntry where
  length : Nat
  offset : Nat
  deriving DecidableEq

/-- A scatterlist: its allocation and its entries. -/
structure Scatterlist where
  handle : Nat
  entries : List SgEntry

/-- `struct saa7231_dmabuf`, with the words stored in its page-table page. A pointer is the
handle of the resource it points to, `none` for `NULL`. -/
structure Dmabuf where
  dmaType : DmaType
  vmalloc : Option Nat
  virt : Option Nat
  ptPhys : BitVec 64
  ptVirt : Option Nat
  sgList : Option Scatterlist
  pages : Nat
  offset : BitVec 32
  count : Nat
  table : List (Nat × BitVec 32)

/-- A buffer in a `kzalloc`ed array. -/
def Dmabuf.zero : Dmabuf where
  dmaType := .extLin
  vmalloc := none
  virt := none
  ptPhys := 0
  ptVirt := none
  sgList := none
  pages := 0
  offset := 0
  count := 0
  table := []

/-- `PTA_LSB` and `ADDR_LSB`. -/
def addrLsb (address : BitVec 64) : BitVec 32 := address.truncate 32

/-- `PTA_MSB` and `ADDR_MSB`. -/
def addrMsb (address : BitVec 64) : BitVec 32 := (address >>> 32).truncate 32

/-- `saa7231_allocate_ptable`. -/
def allocatePtable (dmabuf : Dmabuf) : BoardProgram (Int × Dmabuf) := do
  match ← getFreePage with
  | none => return (-enomem, dmabuf)
  | some virt =>
      let phys ← dmaMapSingle virt
      if phys = 0 then
        return (-enomem, dmabuf)
      bugOn (phys.toNat % saa7231PageSize != 0)
      return (0, { dmabuf with ptPhys := phys, ptVirt := some virt })

/-- Releases a resource unless its pointer is `NULL`. -/
def releaseSome : Option Resource → BoardProgram Unit
  | some resource => release resource
  | none => pure ()

/-- `saa7231_free_ptable`. It clears its own copies of the pointers only. -/
def freePtable (dmabuf : Dmabuf) : BoardProgram Unit := do
  releaseSome (if dmabuf.ptPhys ≠ 0 then some (.single dmabuf.ptPhys) else none)
  releaseSome (dmabuf.ptVirt.map .page)

/-- `saa7231_dmabuf_sgfree`. -/
def dmabufSgfree (dmabuf : Dmabuf) : BoardProgram Dmabuf := do
  bugOn dmabuf.sgList.isNone
  releaseSome (if dmabuf.dmaType = .int then dmabuf.vmalloc.map .vmem else none)
  releaseSome (dmabuf.sgList.map fun sgList => .kmem sgList.handle)
  return { dmabuf with virt := none }

/-- The argument of `vmalloc` for a number of pages: the product of two `int`s, as an
`unsigned long`. -/
def vmallocSize (pages : Nat) : BitVec 64 :=
  (BitVec.ofNat 32 (pages + 1) * BitVec.ofNat 32 saa7231PageSize).signExtend 64

/-- `saa7231_dmabuf_sgalloc` without a caller's buffer, as `saa7231_dmabuf_alloc` calls it. -/
def dmabufSgalloc (dmabuf : Dmabuf) (pages : Nat) : BoardProgram (Int × Dmabuf) := do
  bugOn (pages == 0)
  match ← kzalloc with
  | none => return (-enomem, dmabuf)
  | some handle =>
      match ← vmalloc (vmallocSize pages) with
      | none => return (-enomem, dmabuf)
      | some mem =>
          -- Behind the end of the area `vmalloc_to_page` finds no page.
          bugOn (decide ((vmallocSize pages).toNat / saa7231PageSize < pages))
          let entries := List.replicate pages ⟨saa7231PageSize, 0⟩
          return (0, { dmabuf with
            sgList := some ⟨handle, entries⟩
            virt := some mem
            vmalloc := some mem
            pages := pages })

/-! ## Filling the page table -/

/-- The entries that a page-table page has room for. -/
def pageEntries : Nat := saa7231PageSize / 8

/-- The variables of `saa7231_dmabuf_sgpagefill`: the buffer's `offset` field, the bytes still to
skip, the index and address of the last entry, the stores made in the page and behind its end, and
whether a `BUG_ON` fired. -/
structure PageFill where
  bufferOffset : BitVec 32
  offset : BitVec 32
  k : Nat
  addr : BitVec 64
  stores : List (Nat × BitVec 32)
  strays : List (Nat × BitVec 32)
  bug : Bool

/-- The product `j * SAA7231_PAGE_SIZE`, an `int`, as it is added to a bus address. -/
def pageOffset (j : Nat) : BitVec 64 :=
  (BitVec.ofNat 32 (j * saa7231PageSize)).signExtend 64

namespace PageFill

/-- Before the first segment. -/
def start (bufferOffset offset : BitVec 32) : PageFill where
  bufferOffset := bufferOffset
  offset := offset
  k := 0
  addr := 0
  stores := []
  strays := []
  bug := false

/-- Stores an address into entry `k`, wherever this is. -/
def store (fill : PageFill) (addr : BitVec 64) : PageFill :=
  let words := [(fill.k * 2, addrLsb addr), (fill.k * 2 + 1, addrMsb addr)]
  if fill.k < pageEntries then
    { fill with stores := fill.stores ++ words, k := fill.k + 1 }
  else
    { fill with strays := fill.strays ++ words, k := fill.k + 1 }

/-- Page `j` of a mapped segment. The offsets are added and compared as unsigned words. -/
def page (entry : SgEntry) (dmaAddress : BitVec 64) (fill : PageFill) (j : Nat) : PageFill :=
  if BitVec.ofNat 32 saa7231PageSize ≤ fill.offset + BitVec.ofNat 32 entry.offset then
    { fill with offset := fill.offset - BitVec.ofNat 32 saa7231PageSize }
  else
    let addr := dmaAddress + pageOffset j - BitVec.ofNat 64 entry.offset
    { (fill.store addr) with
      addr := addr
      bug := fill.bug || addr == 0 || (addrLsb addr).toNat % saa7231PageSize != 0 }

/-- Segment `i`, with all its pages. -/
def segment (fill : PageFill) (i : Nat) (entry : SgEntry) (dma : BitVec 64 × Nat) : PageFill :=
  let fill :=
    if i = 0 then
      { fill with
        bufferOffset :=
          BitVec.ofNat 32 ((entry.length + entry.offset) % 2 ^ 32 % saa7231PageSize) }
    else
      { fill with bug := fill.bug || entry.offset != 0 }
  let pages := (dma.2 + (saa7231PageSize - 1)) / saa7231PageSize
  (List.range pages).foldl (page entry dma.1) fill

/-- The segments from number `i` on. -/
def segments (fill : PageFill) : Nat → List (SgEntry × (BitVec 64 × Nat)) → PageFill
  | _, [] => fill
  | i, (entry, dma) :: rest => (fill.segment i entry dma).segments (i + 1) rest

/-- The remaining entries repeat the last address. -/
def pad (fill : PageFill) : PageFill :=
  (List.range (pageEntries - fill.k)).foldl (fun fill _ => fill.store fill.addr) fill

end PageFill

/-- `saa7231_dmabuf_sgpagefill` over the mapped segments of a scatterlist. -/
def dmabufSgpagefill (dmabuf : Dmabuf) (entries : List SgEntry)
    (segments : List (BitVec 64 × Nat)) (offset : BitVec 32) : BoardProgram Dmabuf := do
  bugOn segments.isEmpty
  let fill := ((PageFill.start dmabuf.offset offset).segments 0 (entries.zip segments)).pad
  storeBehind dmabuf.ptVirt fill.strays
  bugOn fill.bug
  return { dmabuf with offset := fill.bufferOffset, table := fill.stores }

/-- `saa7231_dmabuf_alloc`. -/
def dmabufAlloc (dmabuf : Dmabuf) (size : Nat) : BoardProgram (Int × Dmabuf) := do
  bugOn (size == 0)
  let dmabuf := { dmabuf with
    dmaType := .int, vmalloc := none, virt := none, ptPhys := 0, ptVirt := none, pages := 0 }
  let (ret, dmabuf) ← allocatePtable dmabuf
  if ret ≠ 0 then
    return (ret, dmabuf)
  let (ret, dmabuf) ← dmabufSgalloc dmabuf size
  if ret ≠ 0 then
    -- The label `err2`: a scatterlist without memory is not freed.
    freePtable dmabuf
    return (ret, dmabuf)
  match dmabuf.sgList with
  | none => return (ret, dmabuf)
  | some sgList =>
      match ← dmaMapSg sgList.handle dmabuf.pages with
      | .error code =>
          -- The label `err3`.
          let dmabuf ← dmabufSgfree dmabuf
          freePtable dmabuf
          return (Int.negSucc code, dmabuf)
      | .ok segments =>
          let dmabuf ← dmabufSgpagefill dmabuf sgList.entries segments 0
          return (0, dmabuf)

/-- The unmapping of `saa7231_dmabuf_free`. -/
def dmabufUnmap (dmabuf : Dmabuf) : BoardProgram Dmabuf :=
  match dmabuf.sgList with
  | some sgList =>
      if dmabuf.dmaType ≠ .extSg then do
        release (.sg sgList.handle)
        return dmabuf
      else
        return { dmabuf with sgList := none }
  | none => return dmabuf

/-- The freeing of the scatterlist in `saa7231_dmabuf_free`. -/
def dmabufFreeList (dmabuf : Dmabuf) : BoardProgram Dmabuf :=
  if dmabuf.dmaType ≠ .extSg then
    dmabufSgfree dmabuf
  else
    return { dmabuf with sgList := none, pages := 0 }

/-- `saa7231_dmabuf_free`. -/
def dmabufFree (dmabuf : Dmabuf) : BoardProgram Dmabuf := do
  let dmabuf ← dmabufUnmap dmabuf
  let dmabuf ← dmabufFreeList dmabuf
  freePtable dmabuf
  return dmabuf

end Saa7231
