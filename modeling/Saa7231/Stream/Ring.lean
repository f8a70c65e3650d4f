import Mathlib.Algebra.Group.Nat.Defs
import Mathlib.Tactic.Common

/-!
# The buffer ring (`saa7231_ring.c`)

The ring hands out the elements of its buffer array in turn: `ringWrite` the element at the
tail, `ringRead` the element at the head. Buffers are named by their index in the array.
The cursors are 32-bit, so their arithmetic wraps at `2 ^ 32`.
-/

namespace Saa7231

/-- The number of buffers of a transport-stream ring. -/
def ringsiz : Nat := 16

/-- `struct saa7231_ring` over an array of buffers of type `β`. -/
structure Ring (β : Type) where
  dmabuf : List β
  size : Nat
  head : Nat
  tail : Nat
  count : Nat

variable {β : Type}

/-- `saa7231_ring_init`. -/
def ringInit (dmabuf : List β) (size : Nat) : Ring β where
  dmabuf := dmabuf
  size := size
  head := 0
  tail := 0
  count := 0

/-- `ring_empty`. -/
def ringEmpty (ring : Ring β) : Bool := ring.count == 0

/-- `ring_full`. -/
def ringFull (ring : Ring β) : Bool := ring.size ≤ ring.count

/-- `saa7231_ring_read`: the buffer at the head, and the ring with the head advanced. -/
def ringRead (ring : Ring β) : Nat × Ring β :=
  (ring.head,
    { ring with
      head := (ring.head + 1) % 2 ^ 32 % ring.size
      count := (ring.count + (2 ^ 32 - 1)) % 2 ^ 32 })

/-- `saa7231_ring_write`: the buffer at the tail, and the ring with the tail advanced. A full
ring only reports the overflow. -/
def ringWrite (ring : Ring β) : Nat × Ring β :=
  (ring.tail,
    { ring with
      tail := (ring.tail + 1) % 2 ^ 32 % ring.size
      count := if ring.count < ring.size then (ring.count + 1) % 2 ^ 32 else ring.count })

/-- A ring between two interrupts: sixteen buffers, nothing unread, both cursors at one
position. -/
structure Ring.Idle (ring : Ring β) (position : Nat) : Prop where
  size : ring.size = ringsiz
  count : ring.count = 0
  head : ring.head = position
  tail : ring.tail = position
  bound : position < ringsiz

theorem ring_init_idle (dmabuf : List β) : (ringInit dmabuf ringsiz).Idle 0 :=
  ⟨rfl, rfl, rfl, rfl, by decide⟩

namespace Ring.Idle

variable {ring : Ring β} {position : Nat}

theorem not_full (h : ring.Idle position) : ringFull ring = false := by
  simp [ringFull, h.size, h.count, ringsiz]

/-- Writing an idle ring hands out the buffer at its position and leaves it to be read. -/
theorem write_fst (h : ring.Idle position) : (ringWrite ring).1 = position := h.tail

theorem write_not_empty (h : ring.Idle position) : ringEmpty (ringWrite ring).2 = false := by
  simp [ringEmpty, ringWrite, h.size, h.count, ringsiz]

/-- A write and a read of an idle ring pass the same buffer. -/
theorem read_write_fst (h : ring.Idle position) :
    (ringRead (ringWrite ring).2).1 = position := h.head

/-- A write and a read of an idle ring leave it idle, one position further. -/
theorem read_write (h : ring.Idle position) :
    (ringRead (ringWrite ring).2).2.Idle ((position + 1) % ringsiz) := by
  have hbound : position < 16 := h.bound
  have hnext : (position + 1) % 2 ^ 32 = position + 1 := by omega
  refine ⟨h.size, ?_, ?_, ?_, Nat.mod_lt _ (by decide)⟩
  · simp [ringRead, ringWrite, h.count, h.size, ringsiz]
  · simp only [ringRead, ringWrite, h.size, h.head, hnext]
  · simp only [ringRead, ringWrite, h.size, h.tail, hnext]

end Ring.Idle

end Saa7231
