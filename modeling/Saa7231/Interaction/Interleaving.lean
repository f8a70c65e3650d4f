import Saa7231.Interaction.Program

/-!
# Programs interleaved with an environment

The environment of a program may change the state between any two of its operations, as often
as it likes, by steps of a relation `rely`. `Interleaves` relates a program and a state to
every value and state that some interleaving ends with. `Ensures` speaks about all
interleavings and has the rules of a program logic whose assertions are stable under the
environment; `Admits` speaks about some interleaving.
-/

namespace Interaction.Program

variable {Op : Type} {Ans : Op → Type} {α β σ τ : Type}

/-- Some interleaving of the program with its environment ends with the value and the second
state. -/
inductive Interleaves (world : World Op Ans σ) (rely : σ → σ → Prop) :
    Program Op Ans α → σ → α → σ → Prop
  | done (value : α) (state : σ) : Interleaves world rely (.ret value) state value state
  | call {op : Op} {next : Ans op → Program Op Ans α} {state state' : σ} {value : α}
      (hrest : Interleaves world rely (next (world.answer op state)) (world.after op state)
        value state') :
      Interleaves world rely (.call op next) state value state'
  | disturb {program : Program Op Ans α} {state state₁ state' : σ} {value : α}
      (hrely : rely state state₁) (hrest : Interleaves world rely program state₁ value state') :
      Interleaves world rely program state value state'

variable {world : World Op Ans σ} {rely : σ → σ → Prop}

/-- The undisturbed run is an interleaving. -/
theorem interleaves_run (program : Program Op Ans α) (state : σ) :
    Interleaves world rely program state (program.run world state).1
      (program.run world state).2 := by
  induction program generalizing state with
  | ret value => exact .done value state
  | call op next ih => exact .call (ih _ _)

/-- The environment may also act when the program is done. -/
theorem Interleaves.disturb_end {program : Program Op Ans α} {state state₁ state' : σ}
    {value : α} (h : Interleaves world rely program state value state₁)
    (hrely : rely state₁ state') : Interleaves world rely program state value state' := by
  induction h with
  | done value state => exact .disturb hrely (.done value state')
  | call _ ih => exact .call (ih hrely)
  | disturb hfirst _ ih => exact .disturb hfirst (ih hrely)

/-- An interleaving of a composition is one of each part. -/
theorem interleaves_bind {program : Program Op Ans α} {f : α → Program Op Ans β}
    {state state' : σ} {value : β} :
    Interleaves world rely (program >>= f) state value state' ↔
      ∃ middle state₁, Interleaves world rely program state middle state₁ ∧
        Interleaves world rely (f middle) state₁ value state' := by
  constructor
  · intro h
    generalize hwhole : program >>= f = whole at h
    induction h generalizing program with
    | done value state =>
        cases program with
        | ret middle =>
            have hf : f middle = .ret value := hwhole
            exact ⟨middle, state, .done middle state, hf ▸ .done value state⟩
        | call op next => exact absurd hwhole (by intro heq; cases heq)
    | @call op next state state' value hrest ih =>
        cases program with
        | ret middle =>
            have hf : f middle = .call op next := hwhole
            exact ⟨middle, state, .done middle state, hf ▸ .call hrest⟩
        | call op' next' =>
            cases hwhole
            obtain ⟨middle, state₁, hfirst, hsecond⟩ := ih rfl
            exact ⟨middle, state₁, .call hfirst, hsecond⟩
    | disturb hrely _ ih =>
        obtain ⟨middle, state₁, hfirst, hsecond⟩ := ih hwhole
        exact ⟨middle, state₁, .disturb hrely hfirst, hsecond⟩
  · rintro ⟨middle, state₁, hfirst, hsecond⟩
    induction hfirst with
    | done => exact hsecond
    | call _ ih => exact .call (ih hsecond)
    | disturb hrely _ ih => exact .disturb hrely (ih hsecond)

/-! ## All interleavings -/

/-- The environment keeps the assertion. -/
def Stable (rely : σ → σ → Prop) (P : σ → Prop) : Prop :=
  ∀ state state', rely state state' → P state → P state'

theorem stable_assume {A : Prop} {P : σ → Prop} (h : Stable rely P) :
    Stable rely fun state => A ∧ P state :=
  fun state state' hrely hpre => ⟨hpre.1, h state state' hrely hpre.2⟩

/-- Every interleaving that starts in `P` ends in `Q`. -/
def Ensures (world : World Op Ans σ) (rely : σ → σ → Prop) (P : σ → Prop)
    (program : Program Op Ans α) (Q : α → σ → Prop) : Prop :=
  ∀ state value state', P state → Interleaves world rely program state value state' →
    Q value state'

variable {P : σ → Prop} {Q : α → σ → Prop}

theorem Ensures.mono {P' : σ → Prop} {Q' : α → σ → Prop} {program : Program Op Ans α}
    (h : Ensures world rely P program Q) (hP : ∀ state, P' state → P state)
    (hQ : ∀ value state, Q value state → Q' value state) :
    Ensures world rely P' program Q' :=
  fun state value state' hpre hrun => hQ _ _ (h state value state' (hP _ hpre) hrun)

/-- A part of the assertion that is not about the state. -/
theorem ensures_assume {A : Prop} {program : Program Op Ans α}
    (h : A → Ensures world rely P program Q) :
    Ensures world rely (fun state => A ∧ P state) program Q :=
  fun state value state' hpre hrun => h hpre.1 state value state' hpre.2 hrun

theorem ensures_pure {value : α} (hstable : Stable rely P) (h : ∀ state, P state → Q value state) :
    Ensures world rely P (pure value) Q := by
  intro state result state' hpre hrun
  generalize hprogram : (pure value : Program Op Ans α) = program at hrun
  induction hrun with
  | done found state =>
      cases hprogram
      exact h state hpre
  | call => cases hprogram
  | disturb hrely _ ih => exact ih (hstable _ _ hrely hpre) hprogram

/-- One operation, whose result is stable again. -/
theorem ensures_perform {op : Op} {Q : Ans op → σ → Prop} (hstable : Stable rely P)
    (hresult : ∀ answer, Stable rely (Q answer))
    (h : ∀ state, P state → Q (world.answer op state) (world.after op state)) :
    Ensures world rely P (perform op) Q := by
  intro state result state' hpre hrun
  generalize hprogram : (perform op : Program Op Ans (Ans op)) = program at hrun
  induction hrun with
  | done => cases hprogram
  | call hrest =>
      cases hprogram
      exact ensures_pure (hresult _) (fun _ hpost => hpost) _ _ _ (h _ hpre) hrest
  | disturb hrely _ ih => exact ih (hstable _ _ hrely hpre) hprogram

theorem Ensures.bind {program : Program Op Ans α} {f : α → Program Op Ans β}
    {R : α → σ → Prop} {Q : β → σ → Prop} (hfirst : Ensures world rely P program R)
    (hrest : ∀ value, Ensures world rely (R value) (f value) Q) :
    Ensures world rely P (program >>= f) Q := by
  intro state value state' hpre hrun
  obtain ⟨middle, state₁, hprogram, hf⟩ := interleaves_bind.mp hrun
  exact hrest middle _ _ _ (hfirst _ _ _ hpre hprogram) hf

/-- The invariant rule of the counted loop, against an environment. -/
theorem ensures_loop {body : Nat → τ → Program Op Ans τ} {n : Nat} {I : Nat → τ → σ → Prop}
    (hstable : ∀ value, Stable rely (I 0 value))
    (hbody : ∀ i < n, ∀ value, Ensures world rely (I i value) (body i value) (I (i + 1)))
    (start : τ) : Ensures world rely (I 0 start) (loop n body start) (I n) := by
  induction n with
  | zero => exact ensures_pure (hstable start) fun _ h => h
  | succ n ih =>
      exact (ih fun i hi => hbody i (Nat.lt_succ_of_lt hi)).bind (hbody n n.lt_succ_self)

/-! ## Some interleaving -/

/-- From every state of `P` some interleaving ends in `Q`. -/
def Admits (world : World Op Ans σ) (rely : σ → σ → Prop) (P : σ → Prop)
    (program : Program Op Ans α) (Q : α → σ → Prop) : Prop :=
  ∀ state, P state → ∃ value state',
    Interleaves world rely program state value state' ∧ Q value state'

theorem admits_assume {A : Prop} {program : Program Op Ans α}
    (h : A → Admits world rely P program Q) :
    Admits world rely (fun state => A ∧ P state) program Q :=
  fun state hpre => h hpre.1 state hpre.2

/-- The environment may leave the program alone. -/
theorem admits_run {program : Program Op Ans α}
    (h : ∀ state, P state → Q (program.run world state).1 (program.run world state).2) :
    Admits world rely P program Q :=
  fun state hpre => ⟨_, _, interleaves_run program state, h state hpre⟩

/-- The environment may act once the program is done. -/
theorem Admits.disturb_end {program : Program Op Ans α} {R : α → σ → Prop}
    (h : Admits world rely P program R)
    (hrely : ∀ value state, R value state → ∃ state', rely state state' ∧ Q value state') :
    Admits world rely P program Q := by
  intro state hpre
  obtain ⟨value, state₁, hrun, hpost⟩ := h state hpre
  obtain ⟨state', hstep, hfinal⟩ := hrely value state₁ hpost
  exact ⟨value, state', hrun.disturb_end hstep, hfinal⟩

theorem Admits.bind {program : Program Op Ans α} {f : α → Program Op Ans β}
    {R : α → σ → Prop} {Q : β → σ → Prop} (hfirst : Admits world rely P program R)
    (hrest : ∀ value, Admits world rely (R value) (f value) Q) :
    Admits world rely P (program >>= f) Q := by
  intro state hpre
  obtain ⟨middle, state₁, hprogram, hmiddle⟩ := hfirst state hpre
  obtain ⟨value, state', hf, hpost⟩ := hrest middle state₁ hmiddle
  exact ⟨value, state', interleaves_bind.mpr ⟨middle, state₁, hprogram, hf⟩, hpost⟩

theorem admits_loop {body : Nat → τ → Program Op Ans τ} {n : Nat} {I : Nat → τ → σ → Prop}
    (hbody : ∀ i < n, ∀ value, Admits world rely (I i value) (body i value) (I (i + 1)))
    (start : τ) : Admits world rely (I 0 start) (loop n body start) (I n) := by
  induction n with
  | zero => exact admits_run fun _ h => h
  | succ n ih =>
      exact (ih fun i hi => hbody i (Nat.lt_succ_of_lt hi)).bind (hbody n n.lt_succ_self)

end Interaction.Program
