import Saa7231.Interaction.Program

/-!
# Threads on separate components

A world may consist of components, each with operations of its own. When every thread performs
operations on its own component only, the schedule does not matter: in any interleaving a thread
returns what it returns alone, and leaves its component as it does alone
(`Threads.Apart.independent`).
-/

namespace Interaction

variable {κ Op : Type} {Ans : Op → Type} {α τ : Type}

/-- An operation on a component is answered as the operation itself. -/
def ComponentAns (κ : Type) {Op : Type} (Ans : Op → Type) (op : κ × Op) : Type := Ans op.2

variable [DecidableEq κ]

/-- The world made of one world for each component. -/
def World.family (parts : κ → World Op Ans τ) :
    World (κ × Op) (ComponentAns κ Ans) (κ → τ) where
  answer op state := (parts op.1).answer op.2 (state op.1)
  after op state := Function.update state op.1 ((parts op.1).after op.2 (state op.1))

namespace Program

/-- The program of every thread, and the state of the components. -/
structure Threads (κ : Type) {Op : Type} (Ans : Op → Type) (α τ : Type) where
  program : κ → Program (κ × Op) (ComponentAns κ Ans) α
  state : κ → τ

/-- The next operation of a thread. A thread that has finished does nothing. -/
def Threads.step (parts : κ → World Op Ans τ) (threads : Threads κ Ans α τ) (k : κ) :
    Threads κ Ans α τ :=
  match threads.program k with
  | .ret _ => threads
  | .call op next =>
      ⟨Function.update threads.program k (next ((World.family parts).answer op threads.state)),
        (World.family parts).after op threads.state⟩

/-- The threads after a schedule. -/
def Threads.run (parts : κ → World Op Ans τ) (schedule : List κ) (threads : Threads κ Ans α τ) :
    Threads κ Ans α τ :=
  schedule.foldl (Threads.step parts) threads

/-- Every thread stays on its component. -/
def Threads.Apart (threads : Threads κ Ans α τ) : Prop :=
  ∀ k, (threads.program k).Only fun op => op.1 = k

variable {parts : κ → World Op Ans τ} {threads : Threads κ Ans α τ} {k : κ}

/-- A program on one component depends on that component only. -/
theorem run_local {program : Program (κ × Op) (ComponentAns κ Ans) α}
    (honly : program.Only fun op => op.1 = k) {state state' : κ → τ} (h : state k = state' k) :
    (program.run (World.family parts) state).1 = (program.run (World.family parts) state').1 ∧
      (program.run (World.family parts) state).2 k =
        (program.run (World.family parts) state').2 k := by
  induction program generalizing state state' with
  | ret value => exact ⟨rfl, h⟩
  | call op next ih =>
      obtain ⟨rfl, honly⟩ := honly
      have hanswer : (World.family parts).answer op state = (World.family parts).answer op state' :=
        congrArg ((parts op.1).answer op.2) h
      have hafter : (World.family parts).after op state op.1 =
          (World.family parts).after op state' op.1 := by
        show Function.update state op.1 _ op.1 = Function.update state' op.1 _ op.1
        rw [Function.update_self, Function.update_self, h]
      have hright : run (World.family parts) (.call op next) state' =
          run (World.family parts) (next ((World.family parts).answer op state))
            ((World.family parts).after op state') := by
        rw [hanswer]
        rfl
      rw [hright]
      exact ih _ (honly _) hafter

theorem Threads.Apart.step (h : threads.Apart) (j : κ) : (threads.step parts j).Apart := by
  intro k
  unfold Threads.step
  split
  next => exact h k
  next op next hj =>
    have honly := h j
    rw [hj] at honly
    by_cases hk : k = j
    · subst hk
      show (Function.update threads.program k _ k).Only _
      rw [Function.update_self]
      exact honly.2 _
    · show (Function.update threads.program j _ k).Only _
      rw [Function.update_of_ne hk]
      exact h k

/-- What the rest of a thread returns, and what it leaves of its component. -/
def Threads.outcome (parts : κ → World Op Ans τ) (threads : Threads κ Ans α τ) (k : κ) : α × τ :=
  (((threads.program k).run (World.family parts) threads.state).1,
    ((threads.program k).run (World.family parts) threads.state).2 k)

/-- A step of any thread changes the outcome of none. -/
theorem outcome_step (h : threads.Apart) (j k : κ) :
    (threads.step parts j).outcome parts k = threads.outcome parts k := by
  unfold Threads.step
  split
  next => rfl
  next op next hj =>
    by_cases hk : k = j
    · subst hk
      unfold Threads.outcome
      dsimp only
      rw [Function.update_self, hj]
      rfl
    · -- The other thread works on another component.
      have howner : op.1 = j := by
        have honly := h j
        rw [hj] at honly
        exact honly.1
      have hsame : (World.family parts).after op threads.state k = threads.state k :=
        Function.update_of_ne (howner ▸ hk) _ _
      obtain ⟨hvalue, hstate⟩ := run_local (h k) hsame
      unfold Threads.outcome
      dsimp only
      rw [Function.update_of_ne hk]
      exact Prod.ext hvalue hstate

theorem outcome_run (h : threads.Apart) (schedule : List κ) (k : κ) :
    (threads.run parts schedule).outcome parts k = threads.outcome parts k := by
  induction schedule generalizing threads with
  | nil => rfl
  | cons j rest ih => exact (ih (h.step j)).trans (outcome_step h j k)

/-- Whatever the schedule, a thread that has finished returned what it returns alone, and left its
component as it does alone. -/
def Threads.Independent (parts : κ → World Op Ans τ) (threads : Threads κ Ans α τ) : Prop :=
  ∀ schedule k value, (threads.run parts schedule).program k = .ret value →
    ((threads.program k).run (World.family parts) threads.state).1 = value ∧
      ((threads.program k).run (World.family parts) threads.state).2 k =
        (threads.run parts schedule).state k

theorem Threads.Apart.independent (h : threads.Apart) : threads.Independent parts := by
  intro schedule k value hdone
  have houtcome : (threads.run parts schedule).outcome parts k = threads.outcome parts k :=
    outcome_run h schedule k
  unfold Threads.outcome at houtcome
  rw [hdone] at houtcome
  obtain ⟨hvalue, hstate⟩ := Prod.mk.inj houtcome
  exact ⟨hvalue.symm, hstate.symm⟩

end Program

end Interaction
