import Saa7231.Interaction.Transcript
import Mathlib.Data.List.Forall2

/-!
# Programs of one layer inside another

A layer over a larger set of operations performs the operations of a smaller one under other
names. `relabel` renames the operations of a program, and `Bus.lift` does so for the extension of
the register bus. What a program performs and returns is kept.
-/

namespace Interaction

/-- A world of the larger layer as one of the smaller. -/
def World.narrow {Op Op' : Type} {Ans : Op → Type} {Ans' : Op' → Type} {σ : Type}
    (world : World Op' Ans' σ) (f : Op → Op') (answer : (op : Op) → Ans' (f op) → Ans op) :
    World Op Ans σ where
  answer op state := answer op (world.answer (f op) state)
  after op state := world.after (f op) state

namespace Program

variable {Op Op' : Type} {Ans : Op → Type} {Ans' : Op' → Type} {α β τ : Type}

/-- Performs `f op` for every operation `op`, and continues with its answer as one of `op`. -/
def relabel (f : Op → Op') (answer : (op : Op) → Ans' (f op) → Ans op) :
    Program Op Ans α → Program Op' Ans' α
  | .ret value => .ret value
  | .call op next => .call (f op) fun reply => (next (answer op reply)).relabel f answer

variable {f : Op → Op'} {answer : (op : Op) → Ans' (f op) → Ans op}

theorem Only.relabel {P : Op → Prop} {P' : Op' → Prop} {program : Program Op Ans α}
    (h : program.Only P) (hP : ∀ op, P op → P' (f op)) : (program.relabel f answer).Only P' := by
  induction program with
  | ret value => trivial
  | call op next ih => exact ⟨hP op h.1, fun reply => ih _ (h.2 _)⟩

theorem Yields.relabel {Q : α → Prop} {program : Program Op Ans α} (h : program.Yields Q) :
    (program.relabel f answer).Yields Q := by
  induction program with
  | ret value => exact h
  | call op next ih => exact fun reply => ih _ (h _)

/-- Renaming renames the parts of a composition. -/
theorem relabel_bind (program : Program Op Ans α) (f' : α → Program Op Ans β) :
    (program >>= f').relabel f answer =
      program.relabel f answer >>= fun value => (f' value).relabel f answer := by
  induction program with
  | ret value => rfl
  | call op next ih => exact congrArg (Program.call (f op)) (funext fun reply => ih _)

theorem relabel_ite {c : Prop} [Decidable c] (yes no : Program Op Ans α) :
    (if c then yes else no).relabel f answer =
      if c then yes.relabel f answer else no.relabel f answer :=
  apply_ite (Program.relabel f answer) c yes no

/-- Renaming twice is renaming once. -/
theorem relabel_relabel {Op'' : Type} {Ans'' : Op'' → Type} {f' : Op' → Op''}
    {answer' : (op : Op') → Ans'' (f' op) → Ans' op} (program : Program Op Ans α) :
    (program.relabel f answer).relabel f' answer' =
      program.relabel (fun op => f' (f op)) fun op reply => answer op (answer' (f op) reply) := by
  induction program with
  | ret value => rfl
  | call op next ih => exact congrArg (Program.call (f' (f op))) (funext fun reply => ih _)

theorem relabel_id (program : Program Op Ans α) :
    program.relabel id (fun _ reply => reply) = program := by
  induction program with
  | ret value => rfl
  | call op next ih => exact congrArg (Program.call op) (funext ih)

/-- The renamed program runs as the program does in the world of the smaller layer. -/
theorem run_relabel {σ : Type} (world : World Op' Ans' σ) (program : Program Op Ans α) (state : σ) :
    (program.relabel f answer).run world state = program.run (world.narrow f answer) state := by
  induction program generalizing state with
  | ret value => rfl
  | call op next ih => exact ih _ _

/-- A transcript of the renamed program is one of the program with its operations renamed. -/
theorem produces_relabel {program : Program Op Ans α} {steps : List (Exchange Op' Ans')} {value : α}
    (h : Produces (program.relabel f answer) steps value) :
    ∃ steps', Produces program steps' value ∧
      List.Forall₂ (fun step step' => ∃ op reply, step = ⟨op, answer op reply⟩ ∧
        step' = ⟨f op, reply⟩) steps' steps := by
  induction program generalizing steps with
  | ret result =>
      cases h with
      | ret => exact ⟨[], .ret _, .nil⟩
  | call op next ih =>
      obtain ⟨reply, rest, rfl, hrest⟩ := produces_call.mp h
      obtain ⟨steps', hsteps', hrenamed⟩ := ih _ hrest
      exact ⟨_, .call hsteps', .cons ⟨op, reply, rfl, rfl⟩ hrenamed⟩

end Program

/-! ## Extensions of the register bus -/

namespace Bus

variable {Ext Ext' : Type} {ExtAns : Ext → Type} {ExtAns' : Ext' → Type} {α : Type}

/-- The operation over the other extension. -/
def liftOp (f : Ext → Ext') : BusOp Ext → BusOp Ext'
  | .rd address => .rd address
  | .wr value address => .wr value address
  | .delay milliseconds => .delay milliseconds
  | .extra op => .extra (f op)

/-- The answer over the other extension as an answer over the first. -/
def liftAns (f : Ext → Ext') (answer : (op : Ext) → ExtAns' (f op) → ExtAns op) :
    (op : BusOp Ext) → BusAns ExtAns' (liftOp f op) → BusAns ExtAns op
  | .rd _, reply => reply
  | .wr _ _, _ => ()
  | .delay _, _ => ()
  | .extra op, reply => answer op reply

/-- A program over one extension of the bus as one over another. -/
def lift (f : Ext → Ext') (answer : (op : Ext) → ExtAns' (f op) → ExtAns op)
    (program : BusProgram ExtAns α) : BusProgram ExtAns' α :=
  program.relabel (liftOp f) (liftAns f answer)

/-- The renamed program reads the registers with the same values. -/
theorem produces_lift {f : Ext → Ext'} {answer : (op : Ext) → ExtAns' (f op) → ExtAns op}
    {program : BusProgram ExtAns α} {steps : List (Exchange (BusOp Ext') (BusAns ExtAns'))}
    {value : α} (h : Program.Produces (lift f answer program) steps value) :
    ∃ steps', Program.Produces program steps' value ∧
      ∀ address, readings address steps = readings address steps' := by
  obtain ⟨steps', hsteps', hrenamed⟩ := Program.produces_relabel h
  refine ⟨steps', hsteps', fun address => ?_⟩
  clear h hsteps'
  induction hrenamed with
  | nil => rfl
  | cons hstep _ ih =>
      obtain ⟨op, reply, rfl, rfl⟩ := hstep
      cases op with
      | rd read =>
          show readings address ([_] ++ _) = readings address ([_] ++ _)
          rw [readings_append, readings_append, ih]
          rfl
      | wr | delay | extra => exact ih

end Bus

end Interaction
