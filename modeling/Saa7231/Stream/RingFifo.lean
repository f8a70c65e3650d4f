import Saa7231.Interaction.BoundedFifo
import Saa7231.Interaction.Simulation
import Saa7231.Stream.Ring

/-!
# The ring as a queue of buffers

The counter tells a full ring from an empty one where the cursors coincide. As long as the
callers ask `ring_full` before a write and `ring_empty` before a read, the cursors and the
counter describe a window of the buffer array, and the ring is a bounded queue of buffer
indices.
-/

namespace Saa7231

open Interaction

variable {β : Type}

/-- `saa7231_ring_reinit`. -/
def ringReinit (ring : Ring β) : Ring β :=
  { ring with head := 0, tail := 0, count := 0 }

/-- `saa7231_ring_peek`. -/
def ringPeek (ring : Ring β) : Nat := ring.head

/-- The calls that change a ring. -/
inductive RingCall where
  | write
  | read
  | reinit

/-- The ring after the call. -/
def ringStep (ring : Ring β) : RingCall → Ring β
  | .write => (ringWrite ring).2
  | .read => (ringRead ring).2
  | .reinit => ringReinit ring

/-- What the caller does to the queue of unread buffers, with the buffer that the call
returns. -/
def ringAction (ring : Ring β) : RingCall → BoundedFifo.Action Nat
  | .write => .push (ringWrite ring).1
  | .read => .pop (ringRead ring).1
  | .reinit => .clear

/-- A write is made only when the ring is not full, a read only when it is not empty. -/
def RingCall.Permitted (ring : Ring β) : RingCall → Prop
  | .write => ringFull ring = false
  | .read => ringEmpty ring = false
  | .reinit => True

/-- The buffers between the head and the tail. -/
def Ring.unread (ring : Ring β) : List Nat := window ring.size ring.head ring.count

/-- The cursors and the counter of a ring of `n` buffers agree. -/
structure Ring.Wellformed (ring : Ring β) (n : Nat) : Prop where
  size : ring.size = n
  head : ring.head < n
  count : ring.count ≤ n
  tail : ring.tail = (ring.head + ring.count) % n

/-- The ring is well formed and its unread buffers are the items of the queue. -/
structure Ring.Holds {n : Nat} (ring : Ring β) (fifo : BoundedFifo Nat n) : Prop where
  wellformed : ring.Wellformed n
  items : ring.unread = fifo.items

variable {n : Nat} {ring : Ring β}

theorem not_full_iff : ringFull ring = false ↔ ring.count < ring.size := by
  simp [ringFull]

theorem not_empty_iff : ringEmpty ring = false ↔ 0 < ring.count := by
  simp [ringEmpty, Nat.pos_iff_ne_zero]

namespace Ring.Wellformed

/-- A ring without unread buffers whose cursors are at the start. -/
theorem of_zero (hn : 0 < n) (hsize : ring.size = n) (hhead : ring.head = 0)
    (htail : ring.tail = 0) (hcount : ring.count = 0) : ring.Wellformed n where
  size := hsize
  head := by omega
  count := by omega
  tail := by rw [htail, hhead, hcount, Nat.zero_mod]

/-- The unread buffers of a well-formed ring make a queue. -/
theorem holds (h : ring.Wellformed n) : ∃ fifo : BoundedFifo Nat n, ring.Holds fifo := by
  refine ⟨.ofWindow n ring.head ring.count h.count, h, ?_⟩
  show window ring.size ring.head ring.count = _
  rw [h.size]
  rfl

/-- Writing a ring that is not full. -/
theorem write (h : ring.Wellformed n) (hn : n < 2 ^ 32) (hfull : ring.count < n) :
    (ringWrite ring).2.Wellformed n ∧
      (ringWrite ring).2.unread = ring.unread ++ [(ringWrite ring).1] := by
  have htail : ring.tail < n := by
    rw [h.tail]
    exact Nat.mod_lt _ (by omega)
  have hcount : (ringWrite ring).2.count = ring.count + 1 := by
    show (if ring.count < ring.size then (ring.count + 1) % 2 ^ 32 else ring.count) = _
    rw [h.size, if_pos hfull, Nat.mod_eq_of_lt (by omega)]
  constructor
  · refine ⟨h.size, h.head, by omega, ?_⟩
    show (ring.tail + 1) % 2 ^ 32 % ring.size = (ring.head + (ringWrite ring).2.count) % n
    -- The cursor itself is below `2 ^ 32`, so only the size wraps it.
    rw [hcount, h.size, Nat.mod_eq_of_lt (by omega : ring.tail + 1 < 2 ^ 32), h.tail,
      Nat.mod_add_mod, Nat.add_assoc]
  · show window ring.size ring.head (ringWrite ring).2.count =
      window ring.size ring.head ring.count ++ [ring.tail]
    rw [hcount, window_push, h.size, h.tail]

/-- Reading a ring that is not empty. -/
theorem read (h : ring.Wellformed n) (hn : n < 2 ^ 32) (hempty : 0 < ring.count) :
    (ringRead ring).2.Wellformed n ∧
      ring.unread = (ringRead ring).1 :: (ringRead ring).2.unread := by
  have hhead := h.head
  have hbound := h.count
  have hnext : (ringRead ring).2.head = (ring.head + 1) % n := by
    show (ring.head + 1) % 2 ^ 32 % ring.size = (ring.head + 1) % n
    rw [h.size, Nat.mod_eq_of_lt (by omega : ring.head + 1 < 2 ^ 32)]
  have hcount : (ringRead ring).2.count + 1 = ring.count := by
    simp only [ringRead]
    omega
  constructor
  · refine ⟨h.size, ?_, by omega, ?_⟩
    · rw [hnext]
      exact Nat.mod_lt _ (by omega)
    · show ring.tail = ((ringRead ring).2.head + (ringRead ring).2.count) % n
      rw [hnext, Nat.mod_add_mod, h.tail, ← hcount, Nat.add_assoc, Nat.add_comm 1]
  · show window ring.size ring.head ring.count =
      ring.head :: window ring.size (ringRead ring).2.head (ringRead ring).2.count
    rw [h.size, hnext, ← hcount, window_pop hhead]

/-- The unread buffers are pairwise different. -/
theorem unread_nodup (h : ring.Wellformed n) : ring.unread.Nodup := by
  show (window ring.size ring.head ring.count).Nodup
  rw [h.size]
  exact window_nodup h.count

end Ring.Wellformed

theorem ring_init_wellformed (dmabuf : List β) (hn : 0 < n) :
    (ringInit dmabuf n).Wellformed n :=
  .of_zero hn rfl rfl rfl rfl

namespace Ring.Holds

variable {fifo : BoundedFifo Nat n}

/-- Looking at a ring that is not empty shows the buffer that the next read returns. -/
theorem peek (h : ring.Holds fifo) (hn : n < 2 ^ 32) (hempty : ringEmpty ring = false) :
    fifo.items.head? = some (ringPeek ring) := by
  have hitems := (h.wellformed.read hn (not_empty_iff.mp hempty)).2
  rw [← h.items, hitems]
  rfl

/-- One call on the ring is one action on the queue. -/
theorem step (h : ring.Holds fifo) (hn : n < 2 ^ 32) (call : RingCall)
    (hcall : call.Permitted ring) :
    ∃ fifo' : BoundedFifo Nat n,
      BoundedFifo.Step fifo (ringAction ring call) fifo' ∧ (ringStep ring call).Holds fifo' := by
  have hring := h.wellformed
  -- The next queue is the one of the next ring's unread buffers; the call fixes the action.
  cases call with
  | write =>
      obtain ⟨hnext, hunread⟩ := hring.write hn (hring.size ▸ not_full_iff.mp hcall)
      obtain ⟨fifo', hfifo⟩ := hnext.holds
      refine ⟨fifo', .push ?_, hfifo⟩
      rw [← hfifo.items, hunread, h.items]
  | read =>
      obtain ⟨hnext, hunread⟩ := hring.read hn (not_empty_iff.mp hcall)
      obtain ⟨fifo', hfifo⟩ := hnext.holds
      refine ⟨fifo', .pop ?_, hfifo⟩
      rw [← h.items, hunread, hfifo.items]
  | reinit =>
      have hhead := hring.head
      have hnext : (ringReinit ring).Wellformed n :=
        .of_zero (by omega) hring.size rfl rfl rfl
      obtain ⟨fifo', hfifo⟩ := hnext.holds
      exact ⟨fifo', .clear hfifo.items.symm, hfifo⟩

end Ring.Holds

/-- A ring of any size whose callers keep to `ring_full` and `ring_empty` is a bounded queue of
buffer indices: its calls are actions that the queue accepts, its unread buffers are the
queue's items, and they are pairwise different. -/
theorem ring_refines_fifo (dmabuf : List β) (hn : 0 < n) (hwidth : n < 2 ^ 32)
    (calls : List RingCall)
    (hcalls : Each ringStep RingCall.Permitted (ringInit dmabuf n) calls) :
    ∃ fifo : BoundedFifo Nat n,
      Path BoundedFifo.Step (.empty Nat n) (labels ringStep ringAction (ringInit dmabuf n) calls)
        fifo ∧
      (calls.foldl ringStep (ringInit dmabuf n)).unread = fifo.items ∧
      (calls.foldl ringStep (ringInit dmabuf n)).unread.Nodup ∧
      (calls.foldl ringStep (ringInit dmabuf n)).Wellformed n := by
  have hinit : (ringInit dmabuf n).Holds (.empty Nat n) := ⟨ring_init_wellformed dmabuf hn, rfl⟩
  obtain ⟨fifo, hpath, hholds⟩ :=
    path_of_each hinit (fun ring fifo call h hcall => h.step hwidth call hcall) hcalls
  exact ⟨fifo, hpath, hholds.items, hholds.wellformed.unread_nodup, hholds.wellformed⟩

/-- Three buffers: the ring is filled, read across the end of the array and emptied. -/
theorem ring_refines_fifo_three :
    ∃ fifo : BoundedFifo Nat 3,
      Path BoundedFifo.Step (.empty Nat 3)
        (labels ringStep ringAction (ringInit [0x1000, 0x2000, 0x3000] 3)
          [.write, .write, .write, .read, .write, .read, .reinit, .write]) fifo ∧
      fifo.items = [0] := by
  obtain ⟨fifo, hpath, hitems, _, _⟩ :=
    ring_refines_fifo (n := 3) [0x1000, 0x2000, 0x3000] (by decide) (by decide)
      [.write, .write, .write, .read, .write, .read, .reinit, .write]
      (by simp [Each, RingCall.Permitted, ringFull, ringEmpty, ringStep, ringWrite, ringRead,
        ringReinit, ringInit])
  exact ⟨fifo, hpath, hitems.symm⟩

end Saa7231
