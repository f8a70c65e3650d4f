import Saa7231.Interaction.Program

/-!
# The states in which a run performs its operations

`Meets` says that a run performs every operation in a state that a guard relates to it. A
composition meets the guard when both of its runs do, and a program all of whose operations
the guard allows in every state meets it without a run.
-/

namespace Interaction.Program

variable {Op : Type} {Ans : Op → Type} {α β σ : Type}

/-- The run performs every operation in a state that the guard relates to it. -/
def Meets (world : World Op Ans σ) (guard : Op → σ → Prop) : Program Op Ans α → σ → Prop
  | .ret _, _ => True
  | .call op next, state =>
      guard op state ∧ (next (world.answer op state)).Meets world guard (world.after op state)

variable {world : World Op Ans σ} {guard : Op → σ → Prop} {state : σ}

@[simp] theorem meets_pure (value : α) :
    (pure value : Program Op Ans α).Meets world guard state := trivial

@[simp] theorem meets_perform (op : Op) :
    (perform op : Program Op Ans (Ans op)).Meets world guard state ↔ guard op state :=
  and_iff_left trivial

/-- The second part of a composition starts where the first part ends. -/
@[simp] theorem meets_bind {program : Program Op Ans α} {f : α → Program Op Ans β} :
    (program >>= f).Meets world guard state ↔
      program.Meets world guard state ∧
        (f (program.run world state).1).Meets world guard (program.run world state).2 := by
  induction program generalizing state with
  | ret value => exact (and_iff_right trivial).symm
  | call op next ih =>
      show guard op state ∧ (next (world.answer op state) >>= f).Meets world guard
        (world.after op state) ↔ _
      rw [ih, ← and_assoc]
      rfl

/-- The guard can be weakened. -/
theorem Meets.mono {guard' : Op → σ → Prop} {program : Program Op Ans α}
    (hguard : ∀ op state, guard op state → guard' op state)
    (h : program.Meets world guard state) : program.Meets world guard' state := by
  induction program generalizing state with
  | ret value => trivial
  | call op next ih => exact ⟨hguard op state h.1, ih _ h.2⟩

/-- Operations that the guard allows in every state. -/
theorem meets_of_only {P : Op → Prop} {program : Program Op Ans α} (honly : program.Only P)
    (hguard : ∀ op state, P op → guard op state) : program.Meets world guard state := by
  induction program generalizing state with
  | ret value => trivial
  | call op next ih => exact ⟨hguard op state honly.1, ih _ (honly.2 _)⟩

/-- The counted loop, from an invariant under which every iteration meets the guard. -/
theorem meets_loop {τ : Type} {body : Nat → τ → Program Op Ans τ} {n : Nat}
    {I : Nat → τ → σ → Prop} {start : τ} (hinit : I 0 start state)
    (hmeets : ∀ i < n, ∀ value s, I i value s → (body i value).Meets world guard s)
    (hkeep : ∀ i < n, ∀ value s, I i value s →
      I (i + 1) ((body i value).run world s).1 ((body i value).run world s).2) :
    (Program.loop n body start).Meets world guard state := by
  induction n with
  | zero => trivial
  | succ n ih =>
      have hbefore := ih (fun i hi => hmeets i (Nat.lt_succ_of_lt hi))
        fun i hi => hkeep i (Nat.lt_succ_of_lt hi)
      have hreached := run_loop (n := n) hinit fun i hi => hkeep i (Nat.lt_succ_of_lt hi)
      exact meets_bind.mpr ⟨hbefore, hmeets n n.lt_succ_self _ _ hreached⟩

end Interaction.Program
