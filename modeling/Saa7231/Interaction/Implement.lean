import Saa7231.Interaction.Transcript

/-!
# Programs over the programs of a lower layer

An operation of one layer is carried out by a program of the layer below it: a transcript of the
lower layer is a block for every operation of the upper one (`Blocks`). A relation of the lower
layer that every block keeps is kept by the whole (`Refines.run`): the upper program returns what it
returns in the world that the blocks refine. `implement` puts the program in the place of every
operation, and `run_implement` is the same for a lower layer that is a world itself.
-/

namespace Interaction

namespace Program

variable {Op Op' : Type} {Ans : Op → Type} {Ans' : Op' → Type} {α κ σ : Type}

/-- Carries out every operation by its program. -/
def implement (handler : (op : Op) → Program Op' Ans' (Ans op)) :
    Program Op Ans α → Program Op' Ans' α
  | .ret value => .ret value
  | .call op next => handler op >>= fun answer => (next answer).implement handler

/-- A transcript of the lower layer, one block for every step of the upper one. -/
inductive Blocks (handler : (op : Op) → Program Op' Ans' (Ans op)) :
    List (Exchange Op Ans) → List (Exchange Op' Ans') → Prop
  | nil : Blocks handler [] []
  | cons {op : Op} {answer : Ans op} {block : List (Exchange Op' Ans')}
      {steps : List (Exchange Op Ans)} {rest : List (Exchange Op' Ans')}
      (hblock : Produces (handler op) block answer) (hrest : Blocks handler steps rest) :
      Blocks handler (⟨op, answer⟩ :: steps) (block ++ rest)

variable {handler : (op : Op) → Program Op' Ans' (Ans op)}

/-- The lower layer refines a world of the upper one: `Moves` relates its states along a transcript,
`Shows` is the abstraction, and a block of an operation in `P` with an answer that is `Good` does
what the world does. -/
structure Refines (handler : (op : Op) → Program Op' Ans' (Ans op))
    (Moves : κ → List (Exchange Op' Ans') → κ → Prop) (world : World Op Ans σ)
    (Shows : κ → σ → Prop) (P : Op → Prop) (Good : Exchange Op Ans → Prop) : Prop where
  cut : ∀ {start finish first rest}, Moves start (first ++ rest) finish →
    ∃ middle, Moves start first middle ∧ Moves middle rest finish
  rests : ∀ {start finish state}, Moves start [] finish → Shows start state → Shows finish state
  block : ∀ {op answer block start finish state}, P op → Good ⟨op, answer⟩ →
    Produces (handler op) block answer → Moves start block finish → Shows start state →
      answer = world.answer op state ∧ Shows finish (world.after op state)

variable {Moves : κ → List (Exchange Op' Ans') → κ → Prop} {world : World Op Ans σ}
  {Shows : κ → σ → Prop} {P : Op → Prop} {Good : Exchange Op Ans → Prop}

/-- A run of the whole whose answers are good returns what the upper program returns in the world,
and leaves a state that shows the world's. -/
theorem Refines.run (hrefines : Refines handler Moves world Shows P Good)
    {program : Program Op Ans α} (honly : program.Only P) {steps : List (Exchange Op Ans)}
    {value : α} (h : Produces program steps value) {flat : List (Exchange Op' Ans')}
    (hblocks : Blocks handler steps flat) (hgood : ∀ step ∈ steps, Good step) {start finish : κ}
    (hmoves : Moves start flat finish) {state : σ} (hshows : Shows start state) :
    value = (program.run world state).1 ∧ Shows finish (program.run world state).2 := by
  induction h generalizing flat start state with
  | ret value =>
      cases hblocks with
      | nil => exact ⟨rfl, hrefines.rests hmoves hshows⟩
  | call hnext ih =>
      cases hblocks with
      | cons hblock hrest =>
          obtain ⟨middle, hfirst, hlast⟩ := hrefines.cut hmoves
          have hstep := hgood _ List.mem_cons_self
          obtain ⟨rfl, hmiddle⟩ := hrefines.block honly.1 hstep hblock hfirst hshows
          exact ih (honly.2 _) hrest
            (fun other hother => hgood other (List.mem_cons_of_mem _ hother)) hlast hmiddle

/-- A world that does for every block what another does for the operation runs the whole as the
other runs the upper program. -/
theorem run_implement {world' : World Op' Ans' κ}
    (hblock : ∀ op start state, P op → Shows start state →
      ((handler op).run world' start).1 = world.answer op state ∧
        Shows ((handler op).run world' start).2 (world.after op state))
    {program : Program Op Ans α} (honly : program.Only P) {start : κ} {state : σ}
    (hshows : Shows start state) :
    ((program.implement handler).run world' start).1 = (program.run world state).1 ∧
      Shows ((program.implement handler).run world' start).2 (program.run world state).2 := by
  induction program generalizing start state with
  | ret value => exact ⟨rfl, hshows⟩
  | call op next ih =>
      obtain ⟨hanswer, hafter⟩ := hblock op start state honly.1 hshows
      rw [implement, run_bind, hanswer]
      exact ih _ (honly.2 _) hafter

end Program

end Interaction
