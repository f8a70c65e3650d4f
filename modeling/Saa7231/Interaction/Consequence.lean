import Saa7231.Interaction.Relabel

/-!
# What follows in a transcript from a cause

`Entails cause effect` says of a program that a transcript with an exchange in `cause` also has one
in `effect`. The parts of a composition can be looked at one by one, and a part that performs no
operation with a cause needs no look at all.
-/

namespace Interaction.Program

variable {Op Op' : Type} {Ans : Op → Type} {Ans' : Op' → Type} {α β : Type}

/-- No transcript of the program has a cause without an effect. -/
def Entails (cause effect : Exchange Op Ans → Prop) (program : Program Op Ans α) : Prop :=
  program.Traces fun _ steps => (∃ step ∈ steps, cause step) → ∃ step ∈ steps, effect step

variable {cause effect : Exchange Op Ans → Prop} {program : Program Op Ans α}

@[simp] theorem entails_pure (value : α) :
    (pure value : Program Op Ans α).Entails cause effect := by
  rintro ⟨step, hstep, -⟩
  exact absurd hstep List.not_mem_nil

/-- The rule on transcripts. -/
theorem Entails.produces (h : program.Entails cause effect) {steps : List (Exchange Op Ans)}
    {value : α} (hsteps : Produces program steps value) (hcause : ∃ step ∈ steps, cause step) :
    ∃ step ∈ steps, effect step :=
  Traces.produces h hsteps hcause

/-- A composition, the second part of which starts from a value that the first can return. -/
theorem Entails.bind_yields {program : Program Op Ans β} {f : β → Program Op Ans α}
    {Q : β → Prop} (hfirst : program.Entails cause effect) (hvalue : program.Yields Q)
    (hrest : ∀ value, Q value → (f value).Entails cause effect) :
    (program >>= f).Entails cause effect := by
  refine traces_bind.mpr ((Traces.and hfirst hvalue.traces).mono ?_)
  rintro value steps ⟨hsteps, hQ⟩
  refine Traces.mono (hrest value hQ) fun _ rest hlater => ?_
  rintro ⟨step, hstep, hcause⟩
  -- The effect is found in the part that has the cause.
  rcases List.mem_append.mp hstep with hbefore | hafter
  · obtain ⟨found, hfound, heffect⟩ := hsteps ⟨step, hbefore, hcause⟩
    exact ⟨found, List.mem_append_left _ hfound, heffect⟩
  · obtain ⟨found, hfound, heffect⟩ := hlater ⟨step, hafter, hcause⟩
    exact ⟨found, List.mem_append_right _ hfound, heffect⟩

theorem Entails.bind {program : Program Op Ans β} {f : β → Program Op Ans α}
    (hfirst : program.Entails cause effect) (hrest : ∀ value, (f value).Entails cause effect) :
    (program >>= f).Entails cause effect :=
  hfirst.bind_yields (Yields.of_forall (Q := fun _ => True) fun _ => trivial)
    fun value _ => hrest value

@[simp] theorem entails_ite {c : Prop} [Decidable c] {yes no : Program Op Ans α} :
    (if c then yes else no).Entails cause effect ↔
      (c → yes.Entails cause effect) ∧ (¬ c → no.Entails cause effect) :=
  traces_ite

/-- A program none of whose operations can be answered with a cause. -/
theorem entails_of_only (honly : program.Only fun op => ∀ answer, ¬ cause ⟨op, answer⟩) :
    program.Entails cause effect := by
  refine Traces.mono honly.traces fun _ steps hsteps => ?_
  rintro ⟨⟨op, answer⟩, hstep, hcause⟩
  exact absurd hcause (hsteps _ hstep answer)

/-- Two rules at once. -/
theorem Entails.or {cause' effect' : Exchange Op Ans → Prop} (h : program.Entails cause effect)
    (h' : program.Entails cause' effect') :
    program.Entails (fun step => cause step ∨ cause' step)
      fun step => effect step ∨ effect' step := by
  refine Traces.mono (Traces.and h h') fun _ steps hsteps => ?_
  rintro ⟨step, hstep, hcause | hcause⟩
  · obtain ⟨found, hfound, heffect⟩ := hsteps.1 ⟨step, hstep, hcause⟩
    exact ⟨found, hfound, Or.inl heffect⟩
  · obtain ⟨found, hfound, heffect⟩ := hsteps.2 ⟨step, hstep, hcause⟩
    exact ⟨found, hfound, Or.inr heffect⟩

/-- Every member of the second list is related to one of the first. -/
theorem exists_related {γ δ : Type} {R : γ → δ → Prop} {first : List γ} {second : List δ}
    (h : List.Forall₂ R first second) {b : δ} (hb : b ∈ second) : ∃ a ∈ first, R a b := by
  induction h with
  | nil => exact absurd hb List.not_mem_nil
  | @cons a' b' _ _ hrelated _ ih =>
      rcases List.mem_cons.mp hb with rfl | hlater
      · exact ⟨a', List.mem_cons_self, hrelated⟩
      · obtain ⟨a, ha, hab⟩ := ih hlater
        exact ⟨a, List.mem_cons_of_mem _ ha, hab⟩

/-- Renaming the operations keeps what follows from what. -/
theorem Entails.relabel {f : Op → Op'} {answer : (op : Op) → Ans' (f op) → Ans op}
    {cause' effect' : Exchange Op' Ans' → Prop} (h : program.Entails cause effect)
    (hcause : ∀ op reply, cause' ⟨f op, reply⟩ → cause ⟨op, answer op reply⟩)
    (heffect : ∀ op reply, effect ⟨op, answer op reply⟩ → effect' ⟨f op, reply⟩) :
    (program.relabel f answer).Entails cause' effect' := by
  refine traces_iff_produces.mpr ?_
  rintro steps value hsteps ⟨step, hstep, hnow⟩
  obtain ⟨steps', hsteps', hrenamed⟩ := produces_relabel hsteps
  obtain ⟨step', hstep', op, reply, rfl, rfl⟩ := exists_related hrenamed hstep
  obtain ⟨found, hfound, hlater⟩ := h.produces hsteps' ⟨_, hstep', hcause op reply hnow⟩
  obtain ⟨found', hfound', op', reply', rfl, rfl⟩ := exists_related hrenamed.flip hfound
  exact ⟨_, hfound', heffect op' reply' hlater⟩

end Interaction.Program
