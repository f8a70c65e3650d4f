import Saa7231.Interaction.Bus
import Mathlib.Logic.Function.Basic

/-!
# The board under the streaming code

The operations that the stream, demux and DMA code performs beside register accesses, and
the world that answers them. An `Environment` fixes every answer the hardware and the
kernel can choose: register readings, grants of memory, bus addresses, the result of clock
activation. The `Board` records what the code did: the registers that were written and the
value last written to each, the resources that are live, the buffers handed to the demux.

A grant never repeats a resource that is still live, so two live mappings never share a bus
address.
-/

namespace Saa7231

open Interaction

/-- What the code acquires and has to release. -/
inductive Resource where
  /-- A `kzalloc` allocation. -/
  | kmem (handle : Nat)
  /-- A page of `__get_free_page`. -/
  | page (handle : Nat)
  /-- A `vmalloc` area. -/
  | vmem (handle : Nat)
  /-- A `dma_map_single` mapping at a bus address. -/
  | single (address : BitVec 64)
  /-- The `dma_map_sg` mapping of a scatterlist. -/
  | sg (list : Nat)
  deriving DecidableEq

/-- The mutexes of the streaming code. -/
inductive Mutex where
  | devLock
  | feedlock (adapter : Nat)
  deriving DecidableEq

/-- The calls whose occurrence the board records. -/
inductive Routine where
  | dmaStart
  | dmaStop
  deriving DecidableEq

/-- Operations of the streaming code beside register accesses. -/
inductive BoardOp where
  | mutexLock (lock : Mutex)
  | mutexUnlock (lock : Mutex)
  /-- `saa7231_activate_clocks`. -/
  | activateClocks (mode port : Nat)
  /-- A read of the `offset` field of an element behind the end of a buffer array. -/
  | beyondArray (index : Nat)
  /-- `dvb_dmx_swfilter_packets` on a buffer of the ring. -/
  | swfilterPackets (buffer packets : Nat)
  | enter (routine : Routine) (adapter : Nat)
  | kzalloc
  | getFreePage
  | vmalloc (size : BitVec 64)
  | dmaMapSingle (page : Nat)
  | dmaMapSg (list pages : Nat)
  | release (resource : Resource)
  /-- Stores behind the end of a page-table page. A word has its index from the start of the
  page. -/
  | strayStores (page : Option Nat) (words : List (Nat × BitVec 32))
  /-- A `BUG_ON` whose condition holds. -/
  | bug

/-- The answer of each operation. A `dmaMapSg` is answered by the bus address and length of
every mapped segment, or by `error code` for the C result `-(code + 1)`. -/
def BoardAns : BoardOp → Type
  | .activateClocks _ _ => Int
  | .beyondArray _ => BitVec 32
  | .kzalloc => Option Nat
  | .getFreePage => Option Nat
  | .vmalloc _ => Option Nat
  | .dmaMapSingle _ => BitVec 64
  | .dmaMapSg _ _ => Except Nat (List (BitVec 64 × Nat))
  | _ => Unit

/-- Programs of the streaming code. -/
abbrev BoardProgram : Type → Type := BusProgram BoardAns

/-- The choices of the hardware and the kernel. Readings are numbered in the order of the
reads, grants in the order of the requests. -/
structure Environment where
  reading : Nat → Nat → BitVec 32
  activation : Int
  beyond : Nat → BitVec 32
  handle : Nat → Option Nat
  busAddress : Nat → BitVec 64
  segments : Nat → Except Nat (List (BitVec 64 × Nat))

/-- An environment that grants every request and in which the hardware is always ready. -/
def Environment.plain : Environment where
  reading := fun _ _ => 0x80
  activation := 0
  beyond := fun _ => 0
  handle := fun n => some n
  busAddress := fun n => BitVec.ofNat 64 (0x1000 * (n + 1))
  segments := fun _ => .ok [(0x100000, 0x10000)]

/-- The recorded state of the board. -/
structure Board where
  /-- The value last written to each register. -/
  regs : Nat → BitVec 32
  /-- The registers that were written. -/
  written : Nat → Bool
  /-- The number of register reads so far. -/
  reads : Nat
  /-- The number of requests for resources so far. -/
  requests : Nat
  live : Resource → Bool
  /-- Every release, the latest first. -/
  released : List Resource
  /-- The indices read behind the end of a buffer array, the latest first. -/
  overruns : List Nat
  /-- The buffers handed to the demux, the latest first. -/
  delivered : List Nat
  /-- The recorded calls, the latest first. -/
  calls : List (Routine × Nat)
  bugs : Nat

namespace Board

/-- The board at power-on: registers cleared, nothing allocated. -/
def reset : Board where
  regs := fun _ => 0
  written := fun _ => false
  reads := 0
  requests := 0
  live := fun _ => false
  released := []
  overruns := []
  delivered := []
  calls := []
  bugs := 0

/-- Writes a register. -/
def write (board : Board) (value : BitVec 32) (address : Nat) : Board :=
  { board with
    regs := Function.update board.regs address value
    written := Function.update board.written address true }

/-- The resource that the environment grants for the next request, unless it is live. -/
def grant (board : Board) (env : Environment) (kind : Nat → Resource) : Option Nat :=
  (env.handle board.requests).filter fun handle => !board.live (kind handle)

/-- A `vmalloc` area. None is granted for nothing, nor for half of the address space. -/
def grantArea (board : Board) (env : Environment) (size : BitVec 64) : Option Nat :=
  if size = 0 ∨ size.msb then none else board.grant env .vmem

/-- The bus address of the next single mapping, `0` if none is available. -/
def grantAddress (board : Board) (env : Environment) : BitVec 64 :=
  let address := env.busAddress board.requests
  if board.live (.single address) then 0 else address

/-- Records that a request made a resource live, if it was granted. -/
def acquire (board : Board) (resource : Option Resource) : Board :=
  { board with
    requests := board.requests + 1
    live := match resource with
      | some resource => Function.update board.live resource true
      | none => board.live }

/-- Releases a resource. -/
def release (board : Board) (resource : Resource) : Board :=
  { board with
    live := Function.update board.live resource false
    released := resource :: board.released }

end Board

/-- The answers and effects of the operations in an environment. -/
def boardWorld (env : Environment) : World (BusOp BoardOp) (BusAns BoardAns) Board where
  answer op board := match op with
    | .rd address => env.reading board.reads address
    | .wr _ _ => ()
    | .delay _ => ()
    | .extra op => match op with
      | .activateClocks _ _ => env.activation
      | .beyondArray index => env.beyond index
      | .kzalloc => board.grant env .kmem
      | .getFreePage => board.grant env .page
      | .vmalloc size => board.grantArea env size
      | .dmaMapSingle _ => board.grantAddress env
      | .dmaMapSg _ _ => env.segments board.requests
      | .mutexLock _ | .mutexUnlock _ | .swfilterPackets _ _ | .enter _ _ | .release _
      | .strayStores _ _ | .bug => ()
  after op board := match op with
    | .rd _ => { board with reads := board.reads + 1 }
    | .wr value address => board.write value address
    | .delay _ => board
    | .extra op => match op with
      | .beyondArray index => { board with overruns := index :: board.overruns }
      | .swfilterPackets buffer _ => { board with delivered := buffer :: board.delivered }
      | .enter routine adapter => { board with calls := (routine, adapter) :: board.calls }
      | .kzalloc => board.acquire ((board.grant env .kmem).map .kmem)
      | .getFreePage => board.acquire ((board.grant env .page).map .page)
      | .vmalloc size => board.acquire ((board.grantArea env size).map .vmem)
      | .dmaMapSingle _ =>
          let address := board.grantAddress env
          board.acquire (if address = 0 then none else some (.single address))
      | .dmaMapSg list _ => board.acquire (match env.segments board.requests with
          | .ok (_ :: _) => some (.sg list)
          | .ok [] | .error _ => none)
      | .release resource => board.release resource
      | .bug => { board with bugs := board.bugs + 1 }
      | .mutexLock _ | .mutexUnlock _ | .activateClocks _ _ | .strayStores _ _ => board

/-! ## The operations as programs -/

def mutexLock (lock : Mutex) : BoardProgram Unit := Bus.extra (BoardOp.mutexLock lock)
def mutexUnlock (lock : Mutex) : BoardProgram Unit := Bus.extra (BoardOp.mutexUnlock lock)
def activateClocks (mode port : Nat) : BoardProgram Int :=
  Bus.extra (BoardOp.activateClocks mode port)
def beyondArray (index : Nat) : BoardProgram (BitVec 32) := Bus.extra (BoardOp.beyondArray index)
def swfilterPackets (buffer packets : Nat) : BoardProgram Unit :=
  Bus.extra (BoardOp.swfilterPackets buffer packets)
def enter (routine : Routine) (adapter : Nat) : BoardProgram Unit :=
  Bus.extra (BoardOp.enter routine adapter)
def kzalloc : BoardProgram (Option Nat) := Bus.extra BoardOp.kzalloc
def getFreePage : BoardProgram (Option Nat) := Bus.extra BoardOp.getFreePage
def vmalloc (size : BitVec 64) : BoardProgram (Option Nat) := Bus.extra (BoardOp.vmalloc size)
def dmaMapSingle (page : Nat) : BoardProgram (BitVec 64) := Bus.extra (BoardOp.dmaMapSingle page)
def dmaMapSg (list pages : Nat) : BoardProgram (Except Nat (List (BitVec 64 × Nat))) :=
  Bus.extra (BoardOp.dmaMapSg list pages)
def release (resource : Resource) : BoardProgram Unit := Bus.extra (BoardOp.release resource)
def bug : BoardProgram Unit := Bus.extra BoardOp.bug

/-- The stores behind the end of a page-table page, if there are any. -/
def storeBehind (page : Option Nat) : List (Nat × BitVec 32) → BoardProgram Unit
  | [] => pure ()
  | word :: words => Bus.extra (BoardOp.strayStores page (word :: words))

/-- `BUG_ON(condition)`. -/
def bugOn (condition : Bool) : BoardProgram Unit :=
  if condition then bug else pure ()

section Run

variable (env : Environment) (board : Board)

/-- A read is answered by the reading of its number. -/
@[simp] theorem run_rd (address : Nat) :
    (Bus.rd address : BoardProgram _).run (boardWorld env) board =
      (env.reading board.reads address, { board with reads := board.reads + 1 }) := (rfl)

/-- A write is recorded with its register. -/
@[simp] theorem run_wr (value : BitVec 32) (address : Nat) :
    (Bus.wr value address : BoardProgram _).run (boardWorld env) board =
      ((), board.write value address) := (rfl)

/-- Waiting changes nothing. -/
@[simp] theorem run_delay (milliseconds : Nat) :
    (Bus.delay milliseconds : BoardProgram _).run (boardWorld env) board = ((), board) := (rfl)

/-- The board keeps no locks. -/
@[simp] theorem run_mutex_lock (lock : Mutex) :
    (mutexLock lock).run (boardWorld env) board = ((), board) := (rfl)

@[simp] theorem run_mutex_unlock (lock : Mutex) :
    (mutexUnlock lock).run (boardWorld env) board = ((), board) := (rfl)

/-- The clocks are activated outside the board, with the result that the environment gives. -/
@[simp] theorem run_activate_clocks (mode port : Nat) :
    (activateClocks mode port).run (boardWorld env) board = (env.activation, board) := (rfl)

/-- An overrun is answered by what lies there, and recorded. -/
@[simp] theorem run_beyond_array (index : Nat) :
    (beyondArray index).run (boardWorld env) board =
      (env.beyond index, { board with overruns := index :: board.overruns }) := (rfl)

/-- A delivery is recorded with its buffer. -/
@[simp] theorem run_swfilter_packets (buffer packets : Nat) :
    (swfilterPackets buffer packets).run (boardWorld env) board =
      ((), { board with delivered := buffer :: board.delivered }) := (rfl)

/-- A call is recorded with its adapter. -/
@[simp] theorem run_enter (routine : Routine) (adapter : Nat) :
    (enter routine adapter).run (boardWorld env) board =
      ((), { board with calls := (routine, adapter) :: board.calls }) := (rfl)

/-- The allocations take the next grant, unless its resource is live. -/
@[simp] theorem run_kzalloc : kzalloc.run (boardWorld env) board =
    (board.grant env .kmem, board.acquire ((board.grant env .kmem).map .kmem)) := (rfl)

@[simp] theorem run_get_free_page : getFreePage.run (boardWorld env) board =
    (board.grant env .page, board.acquire ((board.grant env .page).map .page)) := (rfl)

/-- The area is granted and taken down in the ledger at once. -/
@[simp] theorem run_vmalloc (size : BitVec 64) : (vmalloc size).run (boardWorld env) board =
    (board.grantArea env size, board.acquire ((board.grantArea env size).map .vmem)) := (rfl)

/-- A mapping at address zero was refused. -/
@[simp] theorem run_dma_map_single (page : Nat) :
    (dmaMapSingle page).run (boardWorld env) board =
      (board.grantAddress env, board.acquire (if board.grantAddress env = 0 then none
        else some (.single (board.grantAddress env)))) := (rfl)

/-- A scatterlist is live once it is mapped to a segment. -/
@[simp] theorem run_dma_map_sg (list pages : Nat) :
    (dmaMapSg list pages).run (boardWorld env) board =
      (env.segments board.requests,
        board.acquire (match env.segments board.requests with
          | .ok (_ :: _) => some (.sg list)
          | .ok [] | .error _ => none)) := (rfl)

/-- What lies behind a page-table page is not on the board. -/
@[simp] theorem run_store_behind (page : Option Nat) (words : List (Nat × BitVec 32)) :
    (storeBehind page words).run (boardWorld env) board = ((), board) := by
  cases words <;> rfl

/-- A release takes the resource off the board. -/
@[simp] theorem run_release (resource : Resource) :
    (release resource).run (boardWorld env) board = ((), board.release resource) := (rfl)

end Run

end Saa7231
