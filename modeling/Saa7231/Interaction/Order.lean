import Saa7231.Interaction.Transcript

/-!
# The order of operations

`Ordered first later` says of a program that, once it performed an operation of `later`, it performs
none of `first` any more. In a composition this has to hold of the parts, and the first part
performs nothing of `later` or the second nothing of `first` (`Ordered.bind`). In a transcript no
operation of `later` stands before one of `first` (`Ordered.produces`).
-/

namespace Interaction.Program

variable {Op : Type} {Ans : Op → Type} {α β : Type}

/-- No operation of `first` follows one of `later`. -/
def Ordered (first later : Op → Prop) : Program Op Ans α → Prop
  | .ret _ => True
  | .call op next => ∀ answer,
      (later op → (next answer).Only fun op => ¬ first op) ∧ (next answer).Ordered first later

variable {first later : Op → Prop} {program : Program Op Ans α}

@[simp] theorem ordered_pure {value : α} :
    (pure value : Program Op Ans α).Ordered first later ↔ True := Iff.rfl

@[simp] theorem ordered_ite {c : Prop} [Decidable c] {yes no : Program Op Ans α} :
    (if c then yes else no).Ordered first later ↔
      (c → yes.Ordered first later) ∧ (¬ c → no.Ordered first later) := by
  split <;> simp_all

theorem ordered_of_not_later (h : program.Only fun op => ¬ later op) :
    program.Ordered first later := by
  induction program with
  | ret value => trivial
  | call op next ih =>
      exact fun answer => ⟨fun hlater => absurd hlater h.1, ih answer (h.2 answer)⟩

theorem ordered_of_not_first (h : program.Only fun op => ¬ first op) :
    program.Ordered first later := by
  induction program with
  | ret value => trivial
  | call op next ih => exact fun answer => ⟨fun _ => h.2 answer, ih answer (h.2 answer)⟩

theorem Ordered.bind {f : α → Program Op Ans β} (h : program.Ordered first later)
    (hf : ∀ value, (f value).Ordered first later)
    (hcross : (program.Only fun op => ¬ later op) ∨
      ∀ value, (f value).Only fun op => ¬ first op) : (program >>= f).Ordered first later := by
  induction program with
  | ret value => exact hf value
  | call op next ih =>
      refine fun answer => ⟨fun hlater => ?_, ih answer (h answer).2 ?_⟩
      · rcases hcross with hnot | hnot
        · exact absurd hlater hnot.1
        · exact ((h answer).1 hlater).bind hnot
      · exact hcross.imp (fun hnot => hnot.2 answer) id

/-- A first part without operations of `later`. -/
theorem Ordered.after {f : α → Program Op Ans β} (h : program.Only fun op => ¬ later op)
    (hf : ∀ value, (f value).Ordered first later) : (program >>= f).Ordered first later :=
  (ordered_of_not_later h).bind hf (Or.inl h)

/-- A second part without operations of `first`. -/
theorem Ordered.before {f : α → Program Op Ans β} (h : program.Ordered first later)
    (hf : ∀ value, (f value).Only fun op => ¬ first op) : (program >>= f).Ordered first later :=
  h.bind (fun value => ordered_of_not_first (hf value)) (Or.inr hf)

/-- The operations of a transcript stand in order. -/
theorem Ordered.produces {steps : List (Exchange Op Ans)} {value : α}
    (h : program.Ordered first later) (hsteps : Produces program steps value) :
    steps.Pairwise fun step step' => later step.1 → ¬ first step'.1 := by
  induction hsteps with
  | ret => exact List.Pairwise.nil
  | call hrest ih =>
      refine List.Pairwise.cons (fun step' hstep' hlater => ?_) (ih (h _).2)
      exact ((h _).1 hlater).produces hrest step' hstep'

end Interaction.Program
