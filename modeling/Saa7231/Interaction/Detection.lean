import Saa7231.Interaction.Relabel
import Saa7231.Interaction.Transcript

/-!
# Programs that fail exactly on a fatal answer

`Detects` says of a program that it ends badly if some operation gets a fatal answer, and well
otherwise. From the first fatal answer on only bad values may be returned; what is answered later
does not matter. `Detects.produces` reads this off a transcript.
-/

namespace Interaction.Program

variable {Op Op' : Type} {Ans : Op → Type} {Ans' : Op' → Type} {α β : Type}

/-- The values returned after a fatal answer are in `bad`, those returned without one in `good`. -/
def Detects (fatal : Exchange Op Ans → Prop) (bad : α → Prop) (good : α → Prop) :
    Program Op Ans α → Prop
  | .ret value => good value
  | .call op next => ∀ answer,
      (fatal ⟨op, answer⟩ → (next answer).Yields bad) ∧
        (¬ fatal ⟨op, answer⟩ → (next answer).Detects fatal bad good)

variable {fatal : Exchange Op Ans → Prop} {bad good : α → Prop}

@[simp] theorem detects_pure {value : α} :
    (pure value : Program Op Ans α).Detects fatal bad good ↔ good value := Iff.rfl

@[simp] theorem detects_perform {op : Op} {bad good : Ans op → Prop} :
    (perform op : Program Op Ans (Ans op)).Detects fatal bad good ↔ ∀ answer,
      (fatal ⟨op, answer⟩ → bad answer) ∧ (¬ fatal ⟨op, answer⟩ → good answer) := Iff.rfl

/-- In a composition the second part is bad after a bad value, and detects after a good one. -/
@[simp] theorem detects_bind {program : Program Op Ans β} {f : β → Program Op Ans α} :
    (program >>= f).Detects fatal bad good ↔
      program.Detects fatal (fun value => (f value).Yields bad)
        fun value => (f value).Detects fatal bad good := by
  induction program with
  | ret value => exact Iff.rfl
  | call op next ih =>
      exact forall_congr' fun answer => and_congr (imp_congr_right fun _ => yields_bind)
        (imp_congr_right fun _ => ih answer)

@[simp] theorem detects_map {program : Program Op Ans β} {f : β → α} :
    (f <$> program).Detects fatal bad good ↔
      program.Detects fatal (fun value => bad (f value)) fun value => good (f value) :=
  detects_bind (f := fun value => pure (f value))

@[simp] theorem detects_ite {c : Prop} [Decidable c] {yes no : Program Op Ans α} :
    (if c then yes else no).Detects fatal bad good ↔
      (c → yes.Detects fatal bad good) ∧ (¬ c → no.Detects fatal bad good) := by
  split <;> simp_all

theorem Detects.mono {bad' good' : α → Prop} {program : Program Op Ans α}
    (h : program.Detects fatal bad good) (hbad : ∀ value, bad value → bad' value)
    (hgood : ∀ value, good value → good' value) : program.Detects fatal bad' good' := by
  induction program with
  | ret value => exact hgood value h
  | call op next ih =>
      exact fun answer => ⟨fun hfatal => ((h answer).1 hfatal).mono hbad,
        fun hgoes => ih answer ((h answer).2 hgoes)⟩

/-- A value is bad after a fatal answer, and good without one. -/
theorem Detects.produces {program : Program Op Ans α} (h : program.Detects fatal bad good)
    {steps : List (Exchange Op Ans)} {value : α} (hsteps : Produces program steps value) :
    ((∃ step ∈ steps, fatal step) ∧ bad value) ∨
      ((∀ step ∈ steps, ¬ fatal step) ∧ good value) := by
  induction hsteps with
  | ret value => exact Or.inr ⟨fun step hstep => absurd hstep List.not_mem_nil, h⟩
  | @call op next answer rest value hrest ih =>
      simp only [List.mem_cons, exists_eq_or_imp, forall_eq_or_imp]
      by_cases hfatal : fatal ⟨op, answer⟩
      · exact Or.inl ⟨Or.inl hfatal, ((h answer).1 hfatal).produces hrest⟩
      · rcases ih ((h answer).2 hfatal) with ⟨hrest, hbad⟩ | ⟨hrest, hgood⟩
        · exact Or.inl ⟨Or.inr hrest, hbad⟩
        · exact Or.inr ⟨⟨hfatal, hrest⟩, hgood⟩

/-- A program without fatal answers. -/
theorem detects_of_only {program : Program Op Ans α}
    (honly : program.Only fun op => ∀ answer, ¬ fatal ⟨op, answer⟩)
    (hyields : program.Yields good) : program.Detects fatal bad good := by
  induction program with
  | ret value => exact hyields
  | call op next ih =>
      exact fun answer => ⟨fun hfatal => absurd hfatal (honly.1 answer),
        fun _ => ih answer (honly.2 answer) (hyields answer)⟩

/-- Renaming the operations keeps what is fatal. -/
theorem Detects.relabel {f : Op → Op'} {answer : (op : Op) → Ans' (f op) → Ans op}
    {fatal' : Exchange Op' Ans' → Prop} {program : Program Op Ans α}
    (h : program.Detects fatal bad good)
    (hfatal : ∀ op reply, fatal' ⟨f op, reply⟩ ↔ fatal ⟨op, answer op reply⟩) :
    (program.relabel f answer).Detects fatal' bad good := by
  induction program with
  | ret value => exact h
  | call op next ih =>
      intro reply
      rw [hfatal]
      exact ⟨fun hnow => ((h _).1 hnow).relabel, fun hgoes => ih _ ((h _).2 hgoes)⟩

end Interaction.Program
