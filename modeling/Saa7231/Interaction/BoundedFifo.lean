import Mathlib.Data.List.Nodup
import Saa7231.Interaction.RoundRobin

/-!
# A bounded queue and the windows of a cyclic array

`BoundedFifo` is a queue of at most `capacity` pairwise different items, the oldest first.
`window n head count` lists the positions of a cyclic array of length `n` that an
implementation of such a queue occupies: `count` of them from `head` on. A write adds the
position behind the window, a read takes its first position away, and no position comes up
twice while the window is not longer than the array.
-/

namespace Interaction

/-- A queue of at most `capacity` pairwise different items, the oldest first. -/
structure BoundedFifo (α : Type) (capacity : Nat) where
  items : List α
  bounded : items.length ≤ capacity
  distinct : items.Nodup

namespace BoundedFifo

variable {α : Type} {capacity : Nat}

/-- The queue without items. -/
def empty (α : Type) (capacity : Nat) : BoundedFifo α capacity where
  items := []
  bounded := Nat.zero_le capacity
  distinct := List.nodup_nil

/-- What a user of the queue does, with the item that goes in or comes out. -/
inductive Action (α : Type) where
  | push (item : α)
  | pop (item : α)
  | clear

/-- The action leads from the first queue to the second: items are taken in at the end and
given out in the order in which they came. -/
inductive Step : BoundedFifo α capacity → Action α → BoundedFifo α capacity → Prop
  | push {fifo fifo' : BoundedFifo α capacity} {item : α}
      (hitems : fifo'.items = fifo.items ++ [item]) : Step fifo (.push item) fifo'
  | pop {fifo fifo' : BoundedFifo α capacity} {item : α}
      (hitems : fifo.items = item :: fifo'.items) : Step fifo (.pop item) fifo'
  | clear {fifo fifo' : BoundedFifo α capacity} (hitems : fifo'.items = []) :
      Step fifo .clear fifo'

end BoundedFifo

/-- The `count` positions of a cyclic array of length `n` that begin at `head`. -/
def window (n head count : Nat) : List Nat :=
  (List.range count).map fun k => (head + k) % n

variable {n head count : Nat}

@[simp] theorem window_length : (window n head count).length = count := by
  simp [window]

/-- A longer window has one more position at its end. -/
theorem window_push :
    window n head (count + 1) = window n head count ++ [(head + count) % n] := by
  simp [window, List.range_succ]

/-- The first position of a window, and the window of the others. -/
theorem window_pop (hhead : head < n) :
    window n head (count + 1) = head :: window n ((head + 1) % n) count := by
  show (List.range (count + 1)).map (fun k => (head + k) % n) = _
  rw [List.range_succ_eq_map, List.map_cons, List.map_map, Nat.add_zero,
    Nat.mod_eq_of_lt hhead]
  refine congrArg (head :: ·) (List.map_congr_left fun k _ => ?_)
  show (head + (k + 1)) % n = ((head + 1) % n + k) % n
  rw [Nat.mod_add_mod]
  congr 1
  omega

/-- A window not longer than the array meets no position twice. -/
theorem window_nodup (hcount : count ≤ n) : (window n head count).Nodup := by
  refine List.Nodup.map_on (fun k hk k' hk' heq => ?_) List.nodup_range
  have hlt : k < count := List.mem_range.mp hk
  have hlt' : k' < count := List.mem_range.mp hk'
  exact RoundRobin.lap_injective hcount hlt (by omega) hlt' (by omega) heq

/-- The queue of the positions in a window. -/
def BoundedFifo.ofWindow (n head count : Nat) (hcount : count ≤ n) : BoundedFifo Nat n where
  items := window n head count
  bounded := by rw [window_length]; exact hcount
  distinct := window_nodup hcount

end Interaction
