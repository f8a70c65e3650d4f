import Saa7231.Interaction.Program

/-!
# Lock discipline

A program is `Disciplined` in the use of a lock when, started without the lock, it never takes the
lock twice nor gives it back unheld, and does not hold it at the end, whatever the answers are. The
rules follow the program: an operation that takes the lock (`locks_lock`), one that gives it back
(`locks_unlock`), and a part that leaves it alone (`locks_of_free`).
-/

namespace Interaction

/-- What an operation does to a lock. -/
inductive LockUse where
  | free
  | lock
  | unlock
  deriving DecidableEq

namespace Program

variable {Op : Type} {Ans : Op → Type} {α β : Type}

/-- Started with the lock held or not, the program takes it only when it is not held and gives it
back only when it is; `Q` holds of the value and of whether the lock is held at the end. -/
def Locks (use : Op → LockUse) (Q : α → Bool → Prop) : Program Op Ans α → Bool → Prop
  | .ret value, held => Q value held
  | .call op next, held => match use op with
      | .free => ∀ answer, (next answer).Locks use Q held
      | .lock => held = false ∧ ∀ answer, (next answer).Locks use Q true
      | .unlock => held = true ∧ ∀ answer, (next answer).Locks use Q false

/-- Started with the lock held or not, the program uses it properly and leaves it as it was. -/
def Keeps (use : Op → LockUse) (held : Bool) (program : Program Op Ans α) : Prop :=
  program.Locks use (fun _ after => after = held) held

/-- Started without the lock, the program uses it properly and does not hold it at the end. -/
def Disciplined (use : Op → LockUse) (program : Program Op Ans α) : Prop :=
  program.Keeps use false

variable {use : Op → LockUse} {Q : α → Bool → Prop} {held : Bool}

@[simp] theorem locks_pure {value : α} :
    (pure value : Program Op Ans α).Locks use Q held ↔ Q value held := Iff.rfl

@[simp] theorem locks_ite {c : Prop} [Decidable c] {yes no : Program Op Ans α} :
    (if c then yes else no).Locks use Q held ↔
      (c → yes.Locks use Q held) ∧ (¬ c → no.Locks use Q held) := by
  split <;> simp_all

/-- The second part of a composition starts with the lock as the first part leaves it. -/
theorem locks_bind {program : Program Op Ans β} {f : β → Program Op Ans α} :
    (program >>= f).Locks use Q held ↔
      program.Locks use (fun value held => (f value).Locks use Q held) held := by
  induction program generalizing held with
  | ret value => exact Iff.rfl
  | call op next ih =>
      show Locks use Q (.call op fun answer => next answer >>= f) held ↔ _
      simp only [Locks]
      cases use op with
      | free => exact forall_congr' fun answer => ih answer
      | lock | unlock => exact and_congr_right fun _ => forall_congr' fun answer => ih answer

/-- A part that leaves the lock alone. -/
theorem locks_of_free {program : Program Op Ans α} (h : program.Only fun op => use op = .free) :
    program.Locks use Q held ↔ program.Yields fun value => Q value held := by
  induction program with
  | ret value => exact Iff.rfl
  | call op next ih =>
      simp only [Locks, h.1]
      exact forall_congr' fun answer => ih answer (h.2 answer)

theorem locks_free_bind {program : Program Op Ans β} {f : β → Program Op Ans α}
    (h : program.Only fun op => use op = .free)
    (hf : ∀ value, (f value).Locks use Q held) : (program >>= f).Locks use Q held :=
  locks_bind.mpr ((locks_of_free h).mpr (Yields.of_forall hf))

theorem locks_lock {op : Op} (hop : use op = .lock) {f : Ans op → Program Op Ans α} :
    (perform op >>= f).Locks use Q held ↔
      held = false ∧ ∀ answer, (f answer).Locks use Q true := by
  show Locks use Q (.call op f) held ↔ _
  simp only [Locks, hop]

theorem locks_unlock {op : Op} (hop : use op = .unlock) {f : Ans op → Program Op Ans α} :
    (perform op >>= f).Locks use Q held ↔
      held = true ∧ ∀ answer, (f answer).Locks use Q false := by
  show Locks use Q (.call op f) held ↔ _
  simp only [Locks, hop]

/-- An operation that takes a lock, which is the one considered or another one. -/
theorem locks_lock_if {op : Op} {mine : Prop} [Decidable mine]
    (hop : use op = if mine then .lock else .free) {f : Ans op → Program Op Ans α}
    (hheld : mine → held = false)
    (hf : ∀ answer, (f answer).Locks use Q (held || decide mine)) :
    (perform op >>= f).Locks use Q held := by
  by_cases hmine : mine
  · rw [if_pos hmine] at hop
    simp only [hmine, decide_true, Bool.or_true] at hf
    exact (locks_lock hop).mpr ⟨hheld hmine, hf⟩
  · rw [if_neg hmine] at hop
    simp only [hmine, decide_false, Bool.or_false] at hf
    exact locks_free_bind ((only_perform op).mpr hop) hf

theorem locks_unlock_if {op : Op} {mine : Prop} [Decidable mine]
    (hop : use op = if mine then .unlock else .free) {f : Ans op → Program Op Ans α}
    (hheld : mine → held = false) (hf : ∀ answer, (f answer).Locks use Q held) :
    (perform op >>= f).Locks use Q (held || decide mine) := by
  by_cases hmine : mine
  · rw [if_pos hmine] at hop
    rw [hheld hmine] at hf
    simp only [hmine, decide_true, Bool.or_true]
    exact (locks_unlock hop).mpr ⟨rfl, hf⟩
  · rw [if_neg hmine] at hop
    simp only [hmine, decide_false, Bool.or_false]
    exact locks_free_bind ((only_perform op).mpr hop) hf

theorem Locks.mono {Q' : α → Bool → Prop} {program : Program Op Ans α}
    (h : program.Locks use Q held) (hQ : ∀ value after, Q value after → Q' value after) :
    program.Locks use Q' held := by
  induction program generalizing held with
  | ret value => exact hQ value held h
  | call op next ih =>
      simp only [Locks] at h ⊢
      cases hop : use op with
      | free =>
          rw [hop] at h
          exact fun answer => ih answer (h answer)
      | lock | unlock =>
          rw [hop] at h
          exact ⟨h.1, fun answer => ih answer (h.2 answer)⟩

/-- What is known of the values without the locks. -/
theorem Locks.and_yields {R : α → Prop} {program : Program Op Ans α}
    (h : program.Locks use Q held) (hR : program.Yields R) :
    program.Locks use (fun value after => Q value after ∧ R value) held := by
  induction program generalizing held with
  | ret value => exact ⟨h, hR⟩
  | call op next ih =>
      simp only [Locks] at h ⊢
      cases hop : use op with
      | free =>
          rw [hop] at h
          exact fun answer => ih answer (h answer) (hR answer)
      | lock | unlock =>
          rw [hop] at h
          exact ⟨h.1, fun answer => ih answer (h.2 answer) (hR answer)⟩

theorem Keeps.bind {program : Program Op Ans β} {f : β → Program Op Ans α}
    (h : program.Keeps use held) (hf : ∀ value, (f value).Keeps use held) :
    (program >>= f).Keeps use held := by
  refine locks_bind.mpr (h.mono fun value after hafter => ?_)
  rw [hafter]
  exact hf value

/-- A program that leaves the lock alone. -/
theorem keeps_of_free {program : Program Op Ans α} (h : program.Only fun op => use op = .free) :
    program.Keeps use held :=
  (locks_of_free h).mpr (Yields.of_forall fun _ => rfl)

end Program

end Interaction
