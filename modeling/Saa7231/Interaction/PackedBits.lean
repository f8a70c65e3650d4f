import Mathlib.Logic.Function.Basic
import Mathlib.Tactic.Common

/-!
# Bits packed in words

A set of bits kept in 32-bit words. `setBits` and `clearBits` are what registers of the
write-one-to-set and write-one-to-clear kind do to one word; the lemmas say what they do to a
single bit.
-/

namespace Interaction.PackedBits

/-- The bit with an index, counted through all words. -/
def bit (words : Nat → BitVec 32) (index : Nat) : Bool :=
  (words (index / 32)).getLsbD (index % 32)

/-- Sets the ones of a value in a word. -/
def setBits (words : Nat → BitVec 32) (word : Nat) (value : BitVec 32) : Nat → BitVec 32 :=
  Function.update words word (words word ||| value)

/-- Clears the ones of a value in a word. -/
def clearBits (words : Nat → BitVec 32) (word : Nat) (value : BitVec 32) : Nat → BitVec 32 :=
  Function.update words word (words word &&& ~~~value)

variable {words : Nat → BitVec 32} {word index other : Nat} {value : BitVec 32}

theorem bit_set_bits : bit (setBits words word value) index = true ↔
    bit words index = true ∨ (index / 32 = word ∧ value.getLsbD (index % 32) = true) := by
  unfold bit setBits
  by_cases hword : index / 32 = word
  · rw [← hword, Function.update_self]
    simp
  · rw [Function.update_of_ne hword]
    simp [hword]

theorem bit_clear_bits : bit (clearBits words word value) index = true ↔
    bit words index = true ∧ ¬ (index / 32 = word ∧ value.getLsbD (index % 32) = true) := by
  have hindex : index % 32 < 32 := Nat.mod_lt _ (by decide)
  unfold bit clearBits
  by_cases hword : index / 32 = word
  · rw [← hword, Function.update_self]
    simp [hindex]
  · rw [Function.update_of_ne hword]
    simp [hword]

/-- The mask of a single bit. -/
theorem get_lsb_mask : (1#32 <<< (other % 32)).getLsbD (index % 32) = true ↔
    index % 32 = other % 32 := by
  have hindex : index % 32 < 32 := Nat.mod_lt _ (by decide)
  rw [← BitVec.twoPow_eq, BitVec.getLsbD_twoPow]
  simp only [Bool.and_eq_true, decide_eq_true_eq]
  omega

/-- An index is its word and its place in the word. -/
theorem index_eq_iff : index / 32 = other / 32 ∧ index % 32 = other % 32 ↔ index = other := by
  omega

theorem bit_set_mask : bit (setBits words (other / 32) (1#32 <<< (other % 32))) index = true ↔
    bit words index = true ∨ index = other := by
  rw [bit_set_bits, get_lsb_mask, index_eq_iff]

end Interaction.PackedBits
