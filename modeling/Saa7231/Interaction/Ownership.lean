import Saa7231.Interaction.Program

/-!
# Programs that release only what they own

An operation may grant a resource with its answer, and may release one. `Owns` says of a
program, whatever the answers, that it releases only resources which it owned at the start or
was granted on the way. If only resources that are not live are granted, such a program keeps
every live resource that it does not own (`Owns.keeps`).
-/

namespace Interaction

/-- The resource that an operation grants with an answer, and the resource it releases. -/
structure Tenure (Op : Type) (Ans : Op → Type) (R : Type) where
  granted : (op : Op) → Ans op → Option R
  released : Op → Option R

namespace Program

variable {Op : Type} {Ans : Op → Type} {R α β σ : Type} {tenure : Tenure Op Ans R}

/-- The program releases only owned resources, and ends with a value and the resources owned
then in `Q`. -/
def Owns (tenure : Tenure Op Ans R) (Q : α → List R → Prop) : Program Op Ans α → List R → Prop
  | .ret value, owned => Q value owned
  | .call op next, owned =>
      (∀ resource, tenure.released op = some resource → resource ∈ owned) ∧
        ∀ answer, (next answer).Owns tenure Q ((tenure.granted op answer).toList ++ owned)

variable {Q : α → List R → Prop} {owned : List R}

@[simp] theorem owns_pure (value : α) :
    (pure value : Program Op Ans α).Owns tenure Q owned ↔ Q value owned := Iff.rfl

/-- The second part of a composition owns what the first part leaves it. -/
@[simp] theorem owns_bind {program : Program Op Ans α} {f : α → Program Op Ans β}
    {Q : β → List R → Prop} :
    (program >>= f).Owns tenure Q owned ↔
      program.Owns tenure (fun value owned => (f value).Owns tenure Q owned) owned := by
  induction program generalizing owned with
  | ret value => exact Iff.rfl
  | call op next ih => exact and_congr_right fun _ => forall_congr' fun answer => ih answer

@[simp] theorem owns_ite (c : Prop) [Decidable c] (yes no : Program Op Ans α) :
    (if c then yes else no).Owns tenure Q owned ↔
      (c → yes.Owns tenure Q owned) ∧ (¬ c → no.Owns tenure Q owned) := by
  split <;> simp_all

theorem Owns.mono {Q' : α → List R → Prop} {program : Program Op Ans α}
    (h : program.Owns tenure Q owned) (hQ : ∀ value owned, Q value owned → Q' value owned) :
    program.Owns tenure Q' owned := by
  induction program generalizing owned with
  | ret value => exact hQ value owned h
  | call op next ih => exact ⟨h.1, fun answer => ih answer (h.2 answer)⟩

/-- A program that releases nothing owns what it needs. -/
theorem owns_of_only {program : Program Op Ans α}
    (honly : program.Only fun op => tenure.released op = none)
    (hQ : ∀ value owned, Q value owned) : program.Owns tenure Q owned := by
  induction program generalizing owned with
  | ret value => exact hQ value owned
  | call op next ih =>
      refine ⟨fun resource hreleased => ?_, fun answer => ih answer (honly.2 answer)⟩
      rw [honly.1] at hreleased
      cases hreleased

/-- A live resource that the program does not own stays live. -/
theorem Owns.keeps {world : World Op Ans σ} (live : σ → R → Prop)
    (hfresh : ∀ op state resource,
      tenure.granted op (world.answer op state) = some resource → ¬ live state resource)
    (hkeep : ∀ op state resource, live state resource → tenure.released op ≠ some resource →
      live (world.after op state) resource)
    {program : Program Op Ans α} (h : program.Owns tenure Q owned) {state : σ} {resource : R}
    (hlive : live state resource) (hout : resource ∉ owned) :
    live (program.run world state).2 resource := by
  induction program generalizing state owned with
  | ret value => exact hlive
  | call op next ih =>
      refine ih _ (h.2 _) ?_ ?_
      · exact hkeep op state resource hlive fun hreleased => hout (h.1 resource hreleased)
      · rw [List.mem_append, Option.mem_toList]
        rintro (hgranted | howned)
        · exact hfresh op state resource hgranted hlive
        · exact hout howned

end Program

end Interaction
