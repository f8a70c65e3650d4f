import Mathlib.Logic.Function.Basic

/-!
# Programs over operations with answers

A `Program` is a finite interaction tree: it either returns a value or performs an
operation and continues with the answer. The same program runs against any `World`,
which fixes what each operation answers and how it changes the world's own state.
`run_preserves` is the frame rule: a program all of whose operations leave a view of
the world alone leaves that view alone. `loop` is the counted loop, with its invariant
rule `run_loop`.
-/

namespace Interaction

/-- A program performing operations `op : Op`, each answered by a value of type `Ans op`. -/
inductive Program (Op : Type) (Ans : Op → Type) (α : Type) : Type where
  | ret (value : α)
  | call (op : Op) (next : Ans op → Program Op Ans α)

/-- What each operation answers, and the state it leaves behind. -/
structure World (Op : Type) (Ans : Op → Type) (σ : Type) where
  answer : (op : Op) → σ → Ans op
  after : Op → σ → σ

namespace Program

variable {Op : Type} {Ans : Op → Type} {α β σ τ : Type}

/-- Sequential composition. -/
def bind : Program Op Ans α → (α → Program Op Ans β) → Program Op Ans β
  | .ret value, f => f value
  | .call op next, f => .call op fun answer => (next answer).bind f

instance : Monad (Program Op Ans) where
  pure := .ret
  bind := bind

/-- The first law of a functor. -/
theorem map_id (program : Program Op Ans α) : id <$> program = program := by
  induction program with
  | ret value => rfl
  | call op next ih => exact congrArg (Program.call op) (funext ih)

/-- Composition is associative. -/
theorem bind_bind (program : Program Op Ans α) (f : α → Program Op Ans β)
    (g : β → Program Op Ans τ) : program >>= f >>= g = program >>= fun value => f value >>= g := by
  induction program with
  | ret value => rfl
  | call op next ih => exact congrArg (Program.call op) (funext ih)

instance : LawfulMonad (Program Op Ans) :=
  LawfulMonad.mk' _ map_id (fun _ _ => rfl) bind_bind

/-- The program of a single operation. -/
def perform (op : Op) : Program Op Ans (Ans op) :=
  .call op .ret

/-- Runs a program to its value and the final state of the world. -/
def run (world : World Op Ans σ) : Program Op Ans α → σ → α × σ
  | .ret value, state => (value, state)
  | .call op next, state =>
      (next (world.answer op state)).run world (world.after op state)

variable (world : World Op Ans σ)

@[simp] theorem run_pure (value : α) (state : σ) :
    (pure value : Program Op Ans α).run world state = (value, state) := (rfl)

/-- Running a composition runs its first part and then the continuation. -/
@[simp] theorem run_bind (program : Program Op Ans α) (f : α → Program Op Ans β) (state : σ) :
    (program >>= f).run world state =
      (f (program.run world state).1).run world (program.run world state).2 := by
  induction program generalizing state with
  | ret value => rfl
  | call op next ih => exact ih (world.answer op state) (world.after op state)

@[simp] theorem run_map (program : Program Op Ans α) (f : α → β) (state : σ) :
    (f <$> program).run world state =
      (f (program.run world state).1, (program.run world state).2) :=
  run_bind world program (fun value => pure (f value)) state

@[simp] theorem run_ite (c : Prop) [Decidable c] (yes no : Program Op Ans α) (state : σ) :
    (if c then yes else no).run world state =
      if c then yes.run world state else no.run world state := by
  split <;> rfl

/-! ## Which operations a program performs -/

/-- Every operation the program can perform, whatever the answers, satisfies `P`. -/
def Only (P : Op → Prop) : Program Op Ans α → Prop
  | .ret _ => True
  | .call op next => P op ∧ ∀ answer, (next answer).Only P

variable {world} {P : Op → Prop}

@[simp] theorem only_pure (value : α) : (pure value : Program Op Ans α).Only P := trivial

@[simp] theorem only_perform (op : Op) :
    (perform op : Program Op Ans (Ans op)).Only P ↔ P op := by
  simp [perform, Only]

/-- A composition performs the operations of its parts. -/
theorem Only.bind {program : Program Op Ans α} {f : α → Program Op Ans β}
    (hfirst : program.Only P) (hrest : ∀ value, (f value).Only P) :
    (program >>= f).Only P := by
  induction program with
  | ret value => exact hrest value
  | call op next ih => exact ⟨hfirst.1, fun answer => ih answer (hfirst.2 answer)⟩

/-- Mapping the value performs no operation. -/
@[simp] theorem only_map {program : Program Op Ans α} {f : α → β} :
    (f <$> program).Only P ↔ program.Only P := by
  induction program with
  | ret value => exact Iff.rfl
  | call op next ih => exact and_congr_right fun _ => forall_congr' ih

/-- Performing one operation and continuing. -/
theorem only_perform_bind {op : Op} {f : Ans op → Program Op Ans β} :
    (perform op >>= f).Only P ↔ P op ∧ ∀ answer, (f answer).Only P := Iff.rfl

@[simp] theorem only_ite (c : Prop) [Decidable c] (yes no : Program Op Ans α) :
    (if c then yes else no).Only P ↔ (c → yes.Only P) ∧ (¬ c → no.Only P) := by
  split <;> simp_all

/-- Where everything is allowed a program is. -/
theorem Only.of_forall {program : Program Op Ans α} (h : ∀ op, P op) : program.Only P := by
  induction program with
  | ret value => trivial
  | call op next ih => exact ⟨h op, ih⟩

/-- A weaker bound allows more. -/
theorem Only.mono {Q : Op → Prop} {program : Program Op Ans α}
    (h : program.Only P) (hPQ : ∀ op, P op → Q op) : program.Only Q := by
  induction program with
  | ret value => trivial
  | call op next ih => exact ⟨hPQ op h.1, fun answer => ih answer (h.2 answer)⟩

/-- An invariant kept by every operation of the program holds after it. -/
theorem run_invariant {program : Program Op Ans α} (honly : program.Only P)
    {I : σ → Prop} (hstep : ∀ op state, P op → I state → I (world.after op state))
    {state : σ} (hinit : I state) : I (program.run world state).2 := by
  induction program generalizing state with
  | ret value => exact hinit
  | call op next ih =>
      exact ih (world.answer op state) (honly.2 _) (hstep op state honly.1 hinit)

/-- The frame rule: a view of the world that no operation of the program changes is the same
after it. -/
theorem run_preserves {program : Program Op Ans α} (honly : program.Only P) (view : σ → τ)
    (hstep : ∀ op state, P op → view (world.after op state) = view state) (state : σ) :
    view (program.run world state).2 = view state :=
  run_invariant honly (fun op s hop hs => (hstep op s hop).trans hs) rfl

/-! ## Which values a program returns -/

/-- Every value the program can return, whatever the answers, satisfies `Q`. -/
def Yields (Q : α → Prop) : Program Op Ans α → Prop
  | .ret value => Q value
  | .call _ next => ∀ answer, (next answer).Yields Q

variable {Q : α → Prop}

@[simp] theorem yields_pure (value : α) :
    (pure value : Program Op Ans α).Yields Q ↔ Q value := Iff.rfl

@[simp] theorem yields_perform (op : Op) {Q : Ans op → Prop} :
    (perform op : Program Op Ans (Ans op)).Yields Q ↔ ∀ answer, Q answer := Iff.rfl

/-- The value of a composition is that of its second part. -/
@[simp] theorem yields_bind {program : Program Op Ans α} {f : α → Program Op Ans β}
    {Q : β → Prop} :
    (program >>= f).Yields Q ↔ program.Yields fun value => (f value).Yields Q := by
  induction program with
  | ret value => exact Iff.rfl
  | call op next ih => exact forall_congr' ih

@[simp] theorem yields_map {program : Program Op Ans α} {f : α → β} {Q : β → Prop} :
    (f <$> program).Yields Q ↔ program.Yields fun value => Q (f value) := by
  induction program with
  | ret value => exact Iff.rfl
  | call op next ih => exact forall_congr' ih

@[simp] theorem yields_ite (c : Prop) [Decidable c] (yes no : Program Op Ans α) :
    (if c then yes else no).Yields Q ↔ (c → yes.Yields Q) ∧ (¬ c → no.Yields Q) := by
  split <;> simp_all

/-- A weaker property is yielded, too. -/
theorem Yields.mono {Q' : α → Prop} {program : Program Op Ans α} (h : program.Yields Q)
    (hQ : ∀ value, Q value → Q' value) : program.Yields Q' := by
  induction program with
  | ret value => exact hQ value h
  | call op next ih => exact fun answer => ih answer (h answer)

/-- What holds of every value. -/
theorem Yields.of_forall {program : Program Op Ans α} (h : ∀ value, Q value) :
    program.Yields Q := by
  induction program with
  | ret value => exact h value
  | call op next ih => exact ih

/-- The value of a run has the property. -/
theorem Yields.run {program : Program Op Ans α} (h : program.Yields Q) (world : World Op Ans σ)
    (state : σ) : Q (program.run world state).1 := by
  induction program generalizing state with
  | ret value => exact h
  | call op next ih => exact ih (world.answer op state) (h _) (world.after op state)

/-- A composition performs the operations of its parts, the second of which starts from a
value that the first can return. -/
theorem Only.bind_yields {program : Program Op Ans α} {f : α → Program Op Ans β}
    (hfirst : program.Only P) (hvalue : program.Yields Q)
    (hrest : ∀ value, Q value → (f value).Only P) : (program >>= f).Only P := by
  induction program with
  | ret value => exact hrest value hvalue
  | call op next ih => exact ⟨hfirst.1, fun answer => ih answer (hfirst.2 answer) (hvalue answer)⟩

/-! ## Counted loops -/

/-- `loop n body start` runs `body 0`, …, `body (n - 1)`, threading a value through. -/
def loop : Nat → (Nat → τ → Program Op Ans τ) → τ → Program Op Ans τ
  | 0, _, value => pure value
  | n + 1, body, value => loop n body value >>= body n

/-- A loop performs the operations of its iterations. -/
theorem Only.loop {body : Nat → τ → Program Op Ans τ} {n : Nat}
    (hbody : ∀ i < n, ∀ value, (body i value).Only P) (start : τ) :
    (Program.loop n body start).Only P := by
  induction n with
  | zero => exact only_pure start
  | succ n ih =>
      exact Only.bind (ih fun i hi => hbody i (Nat.lt_succ_of_lt hi)) (hbody n n.lt_succ_self)

/-- What every iteration of the counted loop returns. -/
theorem Yields.loop {body : Nat → τ → Program Op Ans τ} {n : Nat} {I : Nat → τ → Prop} {start : τ}
    (hinit : I 0 start) (hstep : ∀ i < n, ∀ value, I i value → (body i value).Yields (I (i + 1))) :
    (Program.loop n body start).Yields (I n) := by
  induction n with
  | zero => exact hinit
  | succ n ih =>
      have hbefore := ih fun i hi => hstep i (Nat.lt_succ_of_lt hi)
      exact yields_bind.mpr (hbefore.mono fun value => hstep n n.lt_succ_self value)

/-- The invariant rule of the counted loop. -/
theorem run_loop {body : Nat → τ → Program Op Ans τ} {n : Nat} {I : Nat → τ → σ → Prop}
    {start : τ} {state : σ} (hinit : I 0 start state)
    (hstep : ∀ i < n, ∀ value s, I i value s →
      I (i + 1) ((body i value).run world s).1 ((body i value).run world s).2) :
    I n ((loop n body start).run world state).1 ((loop n body start).run world state).2 := by
  induction n with
  | zero => exact hinit
  | succ n ih =>
      have hprefix := ih fun i hi => hstep i (Nat.lt_succ_of_lt hi)
      simpa only [loop, run_bind] using hstep n n.lt_succ_self _ _ hprefix

end Program

end Interaction
