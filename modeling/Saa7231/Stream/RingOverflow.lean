import Saa7231.Interaction.Runs
import Saa7231.Stream.RingFifo

/-!
# Writes to a full ring

`saa7231_ring_write` has a branch for a full ring, which reports the overflow. The tail has moved
by then, and the head stays: on a ring of more than one buffer the cursors lose the window that
the counter tells. `aligned_iff_no_overflow` is the exact condition, over every run from every ring
whose cursors and counter agree.
-/

namespace Saa7231

open Interaction

variable {β : Type}

/-- The tail is where the head and the counter put it. -/
def Ring.Aligned (ring : Ring β) : Prop := ring.tail = (ring.head + ring.count) % ring.size

/-- Reads are made only of a ring that is not empty; a full ring is written all the same. -/
def RingCall.Unguarded (ring : Ring β) : RingCall → Prop
  | .read => ringEmpty ring = false
  | _ => True

/-- The call moves the cursors with the counter. A ring of one buffer has its tail in one place
only, and a head that is no index of the array must not wrap at `2 ^ 32`. -/
def RingCall.KeepsAlignment (ring : Ring β) : RingCall → Prop
  | .write => ringFull ring = false ∨ ring.size = 1
  | .read => ring.head + 1 < 2 ^ 32 ∨ 2 ^ 32 % ring.size = 0
  | .reinit => True

/-- The newest items, as many as there is room for. -/
def keepNewest (room : Nat) (items : List Nat) : List Nat := items.drop (items.length - room)

/-- A ring, and beside it the buffers a ring of its size has to retain, from the oldest to the
newest. -/
structure RetainedRing (β : Type) where
  ring : Ring β
  retained : List Nat

/-- An overflow drops the oldest buffer. -/
def RetainedRing.step (state : RetainedRing β) (call : RingCall) : RetainedRing β where
  ring := ringStep state.ring call
  retained := match call with
    | .write => keepNewest state.ring.size (state.retained ++ [(ringWrite state.ring).1])
    | .read => state.retained.tail
    | .reinit => []

/-- A read returns the oldest of the retained buffers. -/
def RetainedRing.ReadsOldest (state : RetainedRing β) (call : RingCall) : Prop :=
  call = .read → state.retained.head? = some (ringRead state.ring).1

variable {ring : Ring β}

/-! ## The cursors -/

/-- What every ring has whose relation between cursors and counter the calls are to keep. -/
structure Ring.Counted (ring : Ring β) : Prop where
  pos : 0 < ring.size
  width : ring.size < 2 ^ 32
  head : ring.head < 2 ^ 32
  count : ring.count ≤ ring.size
  aligned : ring.Aligned

namespace Ring.Counted

theorem tail_lt (h : ring.Counted) : ring.tail < ring.size := by
  have haligned : ring.tail = (ring.head + ring.count) % ring.size := h.aligned
  rw [haligned]
  exact Nat.mod_lt _ h.pos

/-- A write moves the tail by one and leaves the head; only the size wraps the cursor. -/
theorem write_tail (h : ring.Counted) :
    (ringWrite ring).2.tail = (ring.head + ring.count + 1) % ring.size := by
  have htail := h.tail_lt
  have hwidth := h.width
  have haligned : ring.tail = (ring.head + ring.count) % ring.size := h.aligned
  show (ring.tail + 1) % 2 ^ 32 % ring.size = _
  rw [Nat.mod_eq_of_lt (by omega : ring.tail + 1 < 2 ^ 32), haligned, Nat.mod_add_mod]

theorem write_count (h : ring.Counted) :
    (ringWrite ring).2.count = if ring.count < ring.size then ring.count + 1 else ring.count := by
  have hwidth := h.width
  show (if ring.count < ring.size then (ring.count + 1) % 2 ^ 32 else ring.count) = _
  split <;> omega

/-- A write keeps the relation exactly when the ring has room, or only one buffer. -/
theorem write_aligned_iff (h : ring.Counted) :
    (ringWrite ring).2.Aligned ↔ RingCall.write.KeepsAlignment ring := by
  have hpos := h.pos
  show (ringWrite ring).2.tail = (ring.head + (ringWrite ring).2.count) % ring.size ↔
    ringFull ring = false ∨ ring.size = 1
  rw [h.write_tail, h.write_count, not_full_iff]
  by_cases hroom : ring.count < ring.size
  · rw [if_pos hroom, Nat.add_assoc]
    exact ⟨fun _ => .inl hroom, fun _ => rfl⟩
  · rw [if_neg hroom]
    constructor
    · intro heq
      -- Two neighbouring positions are the same one only on a ring of one buffer.
      have hone := Nat.sub_mod_eq_zero_of_mod_eq heq
      rw [Nat.add_sub_cancel_left] at hone
      exact .inr (Nat.dvd_one.mp (Nat.dvd_of_mod_eq_zero hone))
    · rintro (hlt | hone)
      · exact absurd hlt hroom
      · rw [hone, Nat.mod_one, Nat.mod_one]

/-- A read keeps the relation exactly when the head does not wrap before the size wraps it. -/
theorem read_aligned_iff (h : ring.Counted) (hempty : 0 < ring.count) :
    (ringRead ring).2.Aligned ↔ RingCall.read.KeepsAlignment ring := by
  have hhead := h.head
  have hwidth := h.width
  have hbound := h.count
  have haligned : ring.tail = (ring.head + ring.count) % ring.size := h.aligned
  have hcount : (ring.count + (2 ^ 32 - 1)) % 2 ^ 32 = ring.count - 1 := by omega
  show ring.tail = ((ring.head + 1) % 2 ^ 32 % ring.size +
    (ring.count + (2 ^ 32 - 1)) % 2 ^ 32) % ring.size ↔ _ ∨ _
  rw [hcount, Nat.mod_add_mod, haligned]
  by_cases hwrap : ring.head + 1 < 2 ^ 32
  · have hsum : ring.head + 1 + (ring.count - 1) = ring.head + ring.count := by omega
    rw [Nat.mod_eq_of_lt hwrap, hsum]
    exact ⟨fun _ => .inl hwrap, fun _ => rfl⟩
  · have hzero : (ring.head + 1) % 2 ^ 32 = 0 := by omega
    have hsum : ring.head + ring.count = 2 ^ 32 + (ring.count - 1) := by omega
    rw [hzero, Nat.zero_add, hsum]
    constructor
    · intro heq
      have hsize := Nat.sub_mod_eq_zero_of_mod_eq heq
      rw [Nat.add_sub_cancel_right] at hsize
      exact .inr hsize
    · rintro (hlt | hsize)
      · exact absurd hlt hwrap
      · rw [Nat.add_mod, hsize, Nat.zero_add, Nat.mod_mod]

/-- Apart from the relation, every call keeps what it is about. -/
theorem step (h : ring.Counted) (call : RingCall) (hcall : call.Unguarded ring)
    (haligned : (ringStep ring call).Aligned) : (ringStep ring call).Counted := by
  have hpos := h.pos
  have hwidth := h.width
  have hhead := h.head
  have hbound := h.count
  cases call with
  | write =>
      refine ⟨hpos, hwidth, hhead, ?_, haligned⟩
      show (ringWrite ring).2.count ≤ ring.size
      rw [h.write_count]
      split <;> omega
  | read =>
      have hempty : 0 < ring.count := not_empty_iff.mp hcall
      refine ⟨hpos, hwidth, ?_, ?_, haligned⟩
      · show (ring.head + 1) % 2 ^ 32 % ring.size < 2 ^ 32
        exact (Nat.mod_lt _ hpos).trans hwidth
      · show (ring.count + (2 ^ 32 - 1)) % 2 ^ 32 ≤ ring.size
        omega
  | reinit => exact ⟨hpos, hwidth, by simp [ringStep, ringReinit], Nat.zero_le _, haligned⟩

/-- A call keeps the relation exactly when the ring allows it. -/
theorem step_aligned_iff (h : ring.Counted) (call : RingCall) (hcall : call.Unguarded ring) :
    (ringStep ring call).Aligned ↔ call.KeepsAlignment ring := by
  cases call with
  | write => exact h.write_aligned_iff
  | read => exact h.read_aligned_iff (not_empty_iff.mp hcall)
  | reinit => exact ⟨fun _ => trivial, fun _ => (Nat.zero_mod _).symm⟩

end Ring.Counted

/-! ## The order of the reads -/

/-- The ring is well formed, and its unread buffers are the ones to be retained. -/
structure RetainedRing.Ordered (state : RetainedRing β) : Prop where
  width : state.ring.size < 2 ^ 32
  wellformed : state.ring.Wellformed state.ring.size
  unread : state.ring.unread = state.retained

namespace RetainedRing.Ordered

variable {state : RetainedRing β}

/-- The buffers of a ring with room for one more. -/
theorem keep_newest_all {room : Nat} {items : List Nat} (h : items.length ≤ room) :
    keepNewest room items = items := by
  show items.drop (items.length - room) = items
  rw [Nat.sub_eq_zero_of_le h, List.drop_zero]

theorem retained_length (h : state.Ordered) : state.retained.length = state.ring.count := by
  rw [← h.unread]
  exact window_length

/-- The one buffer of a ring of size one is written over. -/
theorem write_single (h : state.Ordered) (hone : state.ring.size = 1)
    (hfull : ¬ state.ring.count < state.ring.size) : (state.step .write).Ordered := by
  have hring := h.wellformed
  have hhead := hring.head
  have hcount := hring.count
  have hsize : (ringWrite state.ring).2.size = state.ring.size := rfl
  have hlast : (ringWrite state.ring).2.count = state.ring.count := if_neg hfull
  have htail : (ringWrite state.ring).1 = 0 := by
    show state.ring.tail = 0
    rw [hring.tail, hone, Nat.mod_one]
  have hlength := h.retained_length
  obtain ⟨buffer, hbuffer⟩ : ∃ buffer, state.retained = [buffer] :=
    List.length_eq_one_iff.mp (by omega)
  have hwindow : state.ring.unread = [0] := by
    show window state.ring.size state.ring.head state.ring.count = [0]
    rw [show state.ring.count = 1 by omega, show state.ring.head = 0 by omega, hone]
    rfl
  refine ⟨h.width, ⟨rfl, hhead, hlast ▸ hcount, ?_⟩, ?_⟩
  · show (state.ring.tail + 1) % 2 ^ 32 % state.ring.size = _ % state.ring.size
    rw [hone, Nat.mod_one, Nat.mod_one]
  · show window state.ring.size state.ring.head (ringWrite state.ring).2.count =
      keepNewest state.ring.size (state.retained ++ [(ringWrite state.ring).1])
    have hnewest : keepNewest state.ring.size ([buffer] ++ [0]) = [0] := by
      rw [hone]
      rfl
    rw [hlast, hbuffer, htail, hnewest]
    exact hwindow

/-- A call that keeps the cursors with the counter keeps the unread buffers in order. -/
theorem keep (h : state.Ordered) (call : RingCall) (hcall : call.Unguarded state.ring)
    (hkeeps : call.KeepsAlignment state.ring) : (state.step call).Ordered := by
  have hring := h.wellformed
  have hlength := h.retained_length
  cases call with
  | write =>
      by_cases hroom : state.ring.count < state.ring.size
      · obtain ⟨hnext, hunread⟩ := hring.write h.width hroom
        refine ⟨h.width, hnext, ?_⟩
        show (ringWrite state.ring).2.unread = keepNewest _ _
        rw [keep_newest_all (by rw [List.length_append, hlength]; exact hroom), hunread, h.unread]
      · cases hkeeps with
        | inl hfree => exact absurd (not_full_iff.mp hfree) hroom
        | inr hone => exact h.write_single hone hroom
  | read =>
      obtain ⟨hnext, hunread⟩ := hring.read h.width (not_empty_iff.mp hcall)
      refine ⟨h.width, hnext, ?_⟩
      show (ringRead state.ring).2.unread = state.retained.tail
      rw [← h.unread, hunread, List.tail_cons]
  | reinit =>
      have hpos : 0 < state.ring.size := Nat.zero_lt_of_lt hring.head
      exact ⟨h.width, .of_zero hpos rfl rfl rfl rfl, rfl⟩

theorem reads_oldest (h : state.Ordered) (call : RingCall) (hcall : call.Unguarded state.ring) :
    state.ReadsOldest call := by
  intro hread
  subst hread
  have hunread := (h.wellformed.read h.width (not_empty_iff.mp hcall)).2
  rw [← h.unread, hunread]
  rfl

end RetainedRing.Ordered

/-! ## Runs -/

/-- From any ring whose cursors and counter agree, in every run of writes and of reads that are not
made of an empty ring, the cursors and the counter agree throughout exactly when no write meets a
full ring of more than one buffer. The reads of such a run, on a ring whose head is an index of its
array, return the retained buffers from the oldest to the newest. -/
theorem aligned_iff_no_overflow (ring : Ring β) (hpos : 0 < ring.size)
    (hwidth : ring.size < 2 ^ 32) (hhead : ring.head < 2 ^ 32) (hcount : ring.count ≤ ring.size)
    (haligned : ring.Aligned) (calls : List RingCall)
    (hcalls : Each ringStep RingCall.Unguarded ring calls) :
    (Always ringStep Ring.Aligned ring calls ↔ Each ringStep RingCall.KeepsAlignment ring calls) ∧
      (ring.head < ring.size → Each ringStep RingCall.KeepsAlignment ring calls →
        Each RetainedRing.step RetainedRing.ReadsOldest ⟨ring, ring.unread⟩ calls) := by
  constructor
  · have hstart : ring.Counted := ⟨hpos, hwidth, hhead, hcount, haligned⟩
    refine always_iff_each hstart (fun _ h => h.aligned) ?_ ?_ hcalls
    · intro s call h hcall hkeeps
      exact h.step call hcall ((h.step_aligned_iff call hcall).mpr hkeeps)
    · intro s call h hcall hkeeps hnext
      exact hkeeps ((h.step_aligned_iff call hcall).mp hnext)
  · intro hindex hkeeps
    have hstart : RetainedRing.Ordered ⟨ring, ring.unread⟩ :=
      ⟨hwidth, ⟨rfl, hindex, hcount, haligned⟩, rfl⟩
    have hboth : Each RetainedRing.step
        (fun state call => call.Unguarded state.ring ∧ call.KeepsAlignment state.ring)
        ⟨ring, ring.unread⟩ calls :=
      each_of_map RetainedRing.ring (fun _ _ => rfl) (each_and hcalls hkeeps)
    exact each_of_each hstart (fun _ call h hcall => h.keep call hcall.1 hcall.2)
      (fun _ call h hcall => h.reads_oldest call hcall.1) hboth

/-- Three buffers: the ring is filled, and two buffers are read. -/
theorem aligned_filled_three :
    Always ringStep Ring.Aligned (ringInit [0x1000, 0x2000, 0x3000] 3)
      [.write, .write, .write, .read, .write, .read] := by
  refine (aligned_iff_no_overflow (ringInit [0x1000, 0x2000, 0x3000] 3) (by decide) (by decide)
    (by decide) (by decide) rfl [.write, .write, .write, .read, .write, .read] ?_).1.mpr ?_
  · simp [Each, RingCall.Unguarded, ringEmpty, ringStep, ringWrite, ringRead, ringInit]
  · simp [Each, RingCall.KeepsAlignment, ringFull, ringStep, ringWrite, ringRead, ringInit]

/-- Two buffers: a write to the full ring moves the tail past the head, which stays. The buffer
written last is the next to be read, before the older one. -/
theorem overflow_not_aligned :
    Ring.Aligned ⟨[0x1000, 0x2000], 2, 0, 0, 2⟩ ∧
      ¬ Always ringStep Ring.Aligned ⟨[0x1000, 0x2000], 2, 0, 0, 2⟩ [.write] ∧
      ¬ Each RetainedRing.step RetainedRing.ReadsOldest ⟨⟨[0x1000, 0x2000], 2, 0, 0, 2⟩, [0, 1]⟩
        [.write, .read] := by
  refine ⟨rfl, ?_, ?_⟩
  · rintro ⟨_, hnext⟩
    exact absurd hnext (by decide : ¬ (1 = (0 + 2) % 2))
  · rintro ⟨_, hread, _⟩
    exact absurd (hread rfl) (by decide : ¬ (some 1 = some 0))

end Saa7231
