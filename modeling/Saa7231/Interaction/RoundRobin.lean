import Mathlib.Data.Nat.ModEq

/-!
# A table rewritten in turn from a ring

A table of `m` slots is filled in turn from a ring of `n` buffers. It starts with slot `i`
holding buffer `i`; write number `k` puts buffer `(a + k) % n` into slot `k % m`. The slots
hold pairwise different buffers after every number of writes when the first buffer written is
`0` or lies beyond the initial table (`table_injective`), and a first buffer strictly inside
the initial table collides at once (`table_one_collision`).
-/

namespace Interaction.RoundRobin

/-- The buffer in slot `i` after `k` writes, the first of which wrote buffer `a`. -/
def table (m n a : Nat) : Nat → Nat → Nat
  | 0, i => i
  | k + 1, i => if i = k % m then (a + k) % n else table m n a k i

variable {m n a k i : Nat}

/-- At first every slot holds its own buffer. -/
@[simp] theorem table_zero : table m n a 0 i = i := rfl

theorem table_succ : table m n a (k + 1) i =
    if i = k % m then (a + k) % n else table m n a k i := rfl

/-- A slot either still holds its initial buffer or was written in the last lap. -/
theorem table_cases (hi : i < m) :
    (k ≤ i ∧ table m n a k i = i) ∨
      ∃ j, j < k ∧ k ≤ j + m ∧ j % m = i ∧ table m n a k i = (a + j) % n := by
  induction k with
  | zero => exact Or.inl ⟨i.zero_le, rfl⟩
  | succ k ih =>
      rw [table_succ]
      by_cases hturn : i = k % m
      · exact Or.inr ⟨k, k.lt_succ_self, by omega, hturn.symm, if_pos hturn⟩
      · rw [if_neg hturn]
        rcases ih with ⟨hle, heq⟩ | ⟨j, hlt, hle, hmod, heq⟩
        · have hne : k ≠ i := fun h => hturn (by rw [h, Nat.mod_eq_of_lt hi])
          exact Or.inl ⟨by omega, heq⟩
        · have hne : k ≠ j + m := fun h => hturn (by rw [h, Nat.add_mod_right, hmod])
          exact Or.inr ⟨j, by omega, by omega, hmod, heq⟩

/-- The slot whose turn it is holds what the previous lap put there. -/
theorem table_turn (hm : 0 < m) :
    table m n a k (k % m) = if k < m then k else (a + (k - m)) % n := by
  rcases table_cases (n := n) (a := a) (k := k) (Nat.mod_lt k hm) with
    ⟨hle, heq⟩ | ⟨j, hlt, hle, hmod, heq⟩
  · have hk : k < m := lt_of_le_of_lt hle (Nat.mod_lt k hm)
    rw [heq, if_pos hk, Nat.mod_eq_of_lt hk]
  · have hdiff : j + m ≡ k [MOD m] := by
      rw [Nat.ModEq, Nat.add_mod_right, hmod]
    have hj : j + m = k := by
      have hdvd := (Nat.modEq_iff_dvd' hle).mp hdiff.symm
      have hzero : j + m - k = 0 := Nat.eq_zero_of_dvd_of_lt hdvd (by omega)
      omega
    rw [heq, if_neg (by omega), ← hj, Nat.add_sub_cancel]

/-- Two writes of one lap write different buffers. -/
theorem lap_injective (hmn : m ≤ n) {j j' : Nat} (hj : j < k) (hjm : k ≤ j + m)
    (hj' : j' < k) (hjm' : k ≤ j' + m) (heq : (a + j) % n = (a + j') % n) : j = j' := by
  have hcancel : j ≡ j' [MOD n] := Nat.ModEq.add_left_cancel' a heq
  rcases Nat.le_total j j' with hle | hle
  · have hdvd := (Nat.modEq_iff_dvd' hle).mp hcancel
    have hzero : j' - j = 0 := Nat.eq_zero_of_dvd_of_lt hdvd (by omega)
    omega
  · have hdvd := (Nat.modEq_iff_dvd' hle).mp hcancel.symm
    have hzero : j - j' = 0 := Nat.eq_zero_of_dvd_of_lt hdvd (by omega)
    omega

/-- A written buffer differs from every buffer that still waits in the initial table. -/
theorem written_ne_initial (hmn : m ≤ n) (ha : a = 0 ∨ m ≤ a) (han : a < n) {j : Nat}
    (hji : j < i) (hi : i < m) : (a + j) % n ≠ i := by
  rcases ha with rfl | ha
  · rw [Nat.zero_add, Nat.mod_eq_of_lt (by omega)]
    omega
  · by_cases hwrap : a + j < n
    · rw [Nat.mod_eq_of_lt hwrap]
      omega
    · rw [Nat.mod_eq_sub_mod (by omega), Nat.mod_eq_of_lt (by omega)]
      omega

/-- With a good first buffer the slots hold pairwise different buffers for ever. -/
theorem table_injective (hmn : m ≤ n) (ha : a = 0 ∨ m ≤ a) (han : a < n) {i' : Nat}
    (hi : i < m) (hi' : i' < m) (heq : table m n a k i = table m n a k i') : i = i' := by
  rcases table_cases (n := n) (a := a) (k := k) hi with
    ⟨hle, hval⟩ | ⟨j, hlt, hle, hmod, hval⟩ <;>
  rcases table_cases (n := n) (a := a) (k := k) hi' with
    ⟨hle', hval'⟩ | ⟨j', hlt', hle', hmod', hval'⟩
  · rw [← hval, heq, hval']
  · exact absurd (by rw [← hval', ← heq, hval])
      (written_ne_initial hmn ha han (by omega : j' < i) hi)
  · exact absurd (by rw [← hval, heq, hval'])
      (written_ne_initial hmn ha han (by omega : j < i') hi')
  · have hj := lap_injective hmn hlt hle hlt' hle' (hval ▸ hval' ▸ heq)
    rw [← hmod, ← hmod', hj]

/-- Every slot of the table holds a buffer of the ring. -/
theorem table_lt (hmn : m ≤ n) (hi : i < m) : table m n a k i < n := by
  rcases table_cases (n := n) (a := a) (k := k) hi with ⟨_, hval⟩ | ⟨j, _, _, _, hval⟩
  · omega
  · rw [hval]
    exact Nat.mod_lt _ (by omega)

/-- A first buffer strictly inside the initial table is named twice after one write. -/
theorem table_one_collision (hmn : m ≤ n) (ha : 0 < a) (ham : a < m) :
    table m n a 1 0 = table m n a 1 a := by
  have han : a % n = a := Nat.mod_eq_of_lt (by omega)
  simp [table_succ, han, Nat.ne_of_gt ha]

end Interaction.RoundRobin
