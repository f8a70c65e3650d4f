import Mathlib.Data.List.Basic

/-!
# Blocks in a memory

`store` writes a block from an address on. A block that was written stays intact as long as the
later ones keep away from it, and its beginning stays as long as they keep away from that
(`holds_store_all`); this includes the writes of the same block at one address after the other.
-/

namespace Interaction

variable {β : Type}

/-- The memory with the block from the address on. -/
def store (memory : Nat → β) (address : Nat) (block : List β) : Nat → β :=
  fun cell => if address ≤ cell then block.getD (cell - address) (memory cell) else memory cell

/-- The memory holds the block from the address on. -/
def HoldsBlock (memory : Nat → β) (address : Nat) (block : List β) : Prop :=
  ∀ i < block.length, some (memory (address + i)) = block[i]?

section Single

variable {memory : Nat → β} {address : Nat} {block : List β}

/-- A cell outside the block is left alone. -/
theorem store_outside {cell : Nat} (h : cell < address ∨ address + block.length ≤ cell) :
    store memory address block cell = memory cell := by
  unfold store
  split
  next hcell =>
    have hlength : block.length ≤ cell - address := by omega
    rw [List.getD_eq_getElem?_getD, List.getElem?_eq_none hlength]
    rfl
  next => rfl

/-- A cell of the block. -/
theorem store_inside {i : Nat} (hi : i < block.length) :
    some (store memory address block (address + i)) = block[i]? := by
  unfold store
  rw [if_pos (Nat.le_add_right address i), Nat.add_sub_cancel_left,
    List.getD_eq_getElem?_getD, List.getElem?_eq_getElem hi]
  rfl

theorem holds_store : HoldsBlock (store memory address block) address block :=
  fun _ hi => store_inside hi

@[simp] theorem store_nil : store memory address [] = memory :=
  funext fun cell => store_outside (Nat.lt_or_ge cell address)

/-- Two blocks, one behind the other, are one block. -/
theorem store_append {rest : List β} :
    store (store memory address block) (address + block.length) rest =
      store memory address (block ++ rest) := by
  funext cell
  have hlength : (block ++ rest).length = block.length + rest.length := List.length_append
  rcases Nat.lt_or_ge cell address with hbelow | habove
  · rw [store_outside (by omega), store_outside (by omega), store_outside (by omega)]
  obtain ⟨i, rfl⟩ := Nat.exists_eq_add_of_le habove
  rcases Nat.lt_or_ge i block.length with hfirst | hsecond
  · refine Option.some.inj ?_
    rw [store_outside (by omega), store_inside hfirst, store_inside (by omega),
      List.getElem?_append_left hfirst]
  rcases Nat.lt_or_ge i (block ++ rest).length with hinside | houtside
  · obtain ⟨j, rfl⟩ := Nat.exists_eq_add_of_le hsecond
    refine Option.some.inj ?_
    rw [← Nat.add_assoc, store_inside (by omega), Nat.add_assoc, store_inside hinside,
      List.getElem?_append_right hsecond, Nat.add_sub_cancel_left]
  · rw [store_outside (by omega), store_outside (by omega), store_outside (by omega)]

/-- The beginning of a block that is held. -/
theorem HoldsBlock.take (h : HoldsBlock memory address block) (n : Nat) :
    HoldsBlock memory address (block.take n) := by
  intro i hi
  rw [List.length_take] at hi
  rw [h i (by omega), List.getElem?_take_of_lt (by omega)]

/-- Two cells that agree hold the same block. -/
theorem HoldsBlock.congr {memory' : Nat → β} (h : HoldsBlock memory address block)
    (hsame : ∀ cell, address ≤ cell → cell < address + block.length →
      memory' cell = memory cell) : HoldsBlock memory' address block := by
  intro i hi
  rw [hsame _ (by omega) (by omega)]
  exact h i hi

/-- A block away from a held one leaves it intact. -/
theorem HoldsBlock.store_apart {other : List β} {address' : Nat}
    (h : HoldsBlock memory address block)
    (happart : address' + other.length ≤ address ∨ address + block.length ≤ address') :
    HoldsBlock (store memory address' other) address block :=
  h.congr fun _ _ _ => store_outside (by omega)

/-- The rest of a block that is held. -/
theorem HoldsBlock.drop (h : HoldsBlock memory address block) (n : Nat) :
    HoldsBlock memory (address + n) (block.drop n) := by
  intro i hi
  rw [List.length_drop] at hi
  rw [Nat.add_assoc, h (n + i) (by omega), List.getElem?_drop]

/-- Writing a block where it is changes nothing. -/
theorem HoldsBlock.store_eq (h : HoldsBlock memory address block) :
    store memory address block = memory := by
  funext cell
  by_cases hcell : cell < address ∨ address + block.length ≤ cell
  · exact store_outside hcell
  · obtain ⟨i, rfl⟩ := Nat.exists_eq_add_of_le (show address ≤ cell by omega)
    refine Option.some.inj ?_
    rw [store_inside (by omega), h i (by omega)]

/-- Of two blocks that a memory holds at an address, the shorter one begins the longer one. -/
theorem HoldsBlock.agree {longer : List β} (h : HoldsBlock memory address block)
    (hlonger : HoldsBlock memory address longer) (hlength : block.length ≤ longer.length) :
    block <+: longer := by
  refine List.prefix_iff_getElem?.mpr fun i hi => ?_
  rw [← hlonger i (by omega), h i hi, List.getElem?_eq_getElem hi]

end Single

/-! ## One block at many addresses -/

/-- The block, written at one address after the other. -/
def storeAll (memory : Nat → β) (addresses : List Nat) (block : List β) : Nat → β :=
  addresses.foldl (fun memory address => store memory address block) memory

variable {memory : Nat → β} {addresses : List Nat} {block : List β}

theorem store_all_outside {cell : Nat}
    (h : ∀ address ∈ addresses, cell < address ∨ address + block.length ≤ cell) :
    storeAll memory addresses block cell = memory cell := by
  induction addresses generalizing memory with
  | nil => rfl
  | cons address rest ih =>
      obtain ⟨hfirst, hrest⟩ := List.forall_mem_cons.mp h
      show storeAll (store memory address block) rest block cell = memory cell
      rw [ih hrest, store_outside hfirst]

/-- What the later addresses keep away from stays of the block at an address. -/
theorem holds_store_all {before after : List Nat} {address n : Nat}
    (happart : ∀ later ∈ after,
      later + block.length ≤ address ∨ address + (block.take n).length ≤ later) :
    HoldsBlock (storeAll memory (before ++ address :: after) block) address (block.take n) := by
  unfold storeAll
  rw [List.foldl_append, List.foldl_cons]
  refine (holds_store.take n).congr fun cell hfrom hto => store_all_outside fun later hlater => ?_
  have := happart later hlater
  omega

/-- Ascending addresses with a gap: each holds the beginning of the block up to the gap. -/
theorem holds_store_all_of_gap {gap address : Nat}
    (hgap : addresses.Pairwise fun earlier later => earlier + gap ≤ later)
    (hmem : address ∈ addresses) :
    HoldsBlock (storeAll memory addresses block) address (block.take gap) := by
  obtain ⟨before, after, rfl⟩ := List.append_of_mem hmem
  have hafter := (List.pairwise_cons.mp (List.pairwise_append.mp hgap).2.1).1
  refine holds_store_all fun later hlater => Or.inr ?_
  have hlength : (block.take gap).length ≤ gap := List.length_take_le gap block
  have := hafter later hlater
  omega

end Interaction
