import Mathlib.Logic.Basic

/-!
# Properties of runs

A run is a list of events applied to a state by a step function. `Always` says that a
property holds in every state of the run, `Each` that every event is taken in a state that
allows it. `each_of_each` is the invariant rule; `always_iff_each` is its exact form, for a
guard whose violation breaks the property at once.
-/

namespace Interaction

variable {σ ε : Type}

/-- The property holds in the first state of the run and after each of its events. -/
def Always (step : σ → ε → σ) (P : σ → Prop) : σ → List ε → Prop
  | state, [] => P state
  | state, event :: rest => P state ∧ Always step P (step state event) rest

/-- Every event of the run is taken in a state that the guard relates to it. -/
def Each (step : σ → ε → σ) (C : σ → ε → Prop) : σ → List ε → Prop
  | _, [] => True
  | state, event :: rest => C state event ∧ Each step C (step state event) rest

variable {step : σ → ε → σ} {P Inv : σ → Prop} {C V : σ → ε → Prop}

/-- `Always` speaks about exactly the states that some prefix of the run reaches. -/
theorem always_iff_prefix {state : σ} {events : List ε} :
    Always step P state events ↔
      ∀ done todo, events = done ++ todo → P (done.foldl step state) := by
  induction events generalizing state with
  | nil =>
      constructor
      · intro h done todo hsplit
        obtain ⟨rfl, rfl⟩ := List.append_eq_nil_iff.mp hsplit.symm
        exact h
      · intro h
        exact h [] [] rfl
  | cons event rest ih =>
      constructor
      · rintro ⟨hnow, hrest⟩ done todo hsplit
        cases done with
        | nil => exact hnow
        | cons first done =>
            obtain ⟨rfl, htail⟩ := List.cons.inj hsplit
            exact ih.mp hrest done todo htail
      · intro h
        refine ⟨h [] (event :: rest) rfl, ih.mpr fun done todo hsplit => ?_⟩
        exact h (event :: done) todo (by rw [hsplit, List.cons_append])

/-- A guard that always holds holds in every run. -/
theorem each_of_forall {state : σ} {events : List ε} (h : ∀ s e, C s e) :
    Each step C state events := by
  induction events generalizing state with
  | nil => trivial
  | cons event rest ih => exact ⟨h state event, ih⟩

/-- A guard on the events alone. -/
theorem each_iff_forall_mem {G : ε → Prop} {state : σ} {events : List ε} :
    Each step (fun _ event => G event) state events ↔ ∀ event ∈ events, G event := by
  induction events generalizing state with
  | nil => simp [Each]
  | cons event rest ih => simp [Each, ih]

/-- A guard can be weakened. -/
theorem Each.imp {G : σ → ε → Prop} {state : σ} {events : List ε} (hguard : ∀ s e, C s e → G s e)
    (h : Each step C state events) : Each step G state events := by
  induction events generalizing state with
  | nil => trivial
  | cons event rest ih => exact ⟨hguard state event h.1, ih h.2⟩

/-- Two guards together. -/
theorem each_and {G : σ → ε → Prop} {state : σ} {events : List ε}
    (hC : Each step C state events) (hG : Each step G state events) :
    Each step (fun s e => C s e ∧ G s e) state events := by
  induction events generalizing state with
  | nil => trivial
  | cons event rest ih => exact ⟨⟨hC.1, hG.1⟩, ih hC.2 hG.2⟩

/-- A run of a larger state, with a guard that looks at a part which steps on its own. -/
theorem each_of_map {τ : Type} {step' : τ → ε → τ} (part : τ → σ) {state : τ} {events : List ε}
    (hstep : ∀ s e, part (step' s e) = step (part s) e)
    (h : Each step C (part state) events) : Each step' (fun s e => C (part s) e) state events := by
  induction events generalizing state with
  | nil => trivial
  | cons event rest ih =>
      refine ⟨h.1, ih ?_⟩
      rw [hstep]
      exact h.2

/-- The invariant rule: what an invariant and the validity of an event give holds at every
event of a valid run. -/
theorem each_of_each {state : σ} {events : List ε} (hinit : Inv state)
    (hkeep : ∀ s e, Inv s → V s e → Inv (step s e)) (hguard : ∀ s e, Inv s → V s e → C s e)
    (hV : Each step V state events) : Each step C state events := by
  induction events generalizing state with
  | nil => trivial
  | cons event rest ih =>
      exact ⟨hguard _ _ hinit hV.1, ih (hkeep _ _ hinit hV.1) hV.2⟩

/-- The invariant rule for a property of the states: it holds throughout every valid run. -/
theorem always_of_each {state : σ} {events : List ε} (hinit : Inv state)
    (hprop : ∀ s, Inv s → P s) (hkeep : ∀ s e, Inv s → V s e → Inv (step s e))
    (hV : Each step V state events) : Always step P state events := by
  induction events generalizing state with
  | nil => exact hprop state hinit
  | cons event rest ih => exact ⟨hprop state hinit, ih (hkeep _ _ hinit hV.1) hV.2⟩

/-- The exact invariant rule, for runs whose events are valid: if the allowed events keep an
invariant that implies the property, and an event that is not allowed breaks the property,
then the property holds throughout exactly when every event is allowed. -/
theorem always_iff_each {state : σ} {events : List ε} (hinit : Inv state)
    (hprop : ∀ s, Inv s → P s)
    (hkeep : ∀ s e, Inv s → V s e → C s e → Inv (step s e))
    (hbreak : ∀ s e, Inv s → V s e → ¬ C s e → ¬ P (step s e))
    (hV : Each step V state events) :
    Always step P state events ↔ Each step C state events := by
  induction events generalizing state with
  | nil => exact ⟨fun _ => trivial, fun _ => hprop _ hinit⟩
  | cons event rest ih =>
      by_cases hC : C state event
      · have hrest := ih (hkeep _ _ hinit hV.1 hC) hV.2
        exact ⟨fun h => ⟨hC, hrest.mp h.2⟩, fun h => ⟨hprop _ hinit, hrest.mpr h.2⟩⟩
      · constructor
        · rintro ⟨_, hrest⟩
          have hnow : P (step state event) := by
            cases rest with
            | nil => exact hrest
            | cons _ _ => exact hrest.1
          exact absurd hnow (hbreak _ _ hinit hV.1 hC)
        · exact fun h => absurd h.1 hC

/-- The exact invariant rule for a property of the states together with one of the events: an event
that is not allowed breaks the property or is one that the second guard rules out. -/
theorem always_and_each_iff {G : σ → ε → Prop} {state : σ} {events : List ε} (hinit : Inv state)
    (hprop : ∀ s, Inv s → P s)
    (hkeep : ∀ s e, Inv s → V s e → C s e → Inv (step s e) ∧ G s e)
    (hbreak : ∀ s e, Inv s → V s e → ¬ C s e → P (step s e) → ¬ G s e)
    (hV : Each step V state events) :
    Always step P state events ∧ Each step G state events ↔ Each step C state events := by
  induction events generalizing state with
  | nil => exact ⟨fun _ => trivial, fun _ => ⟨hprop _ hinit, trivial⟩⟩
  | cons event rest ih =>
      by_cases hC : C state event
      · obtain ⟨hnext, hG⟩ := hkeep _ _ hinit hV.1 hC
        have hrest := ih hnext hV.2
        constructor
        · exact fun h => ⟨hC, hrest.mp ⟨h.1.2, h.2.2⟩⟩
        · intro h
          obtain ⟨halways, heach⟩ := hrest.mpr h.2
          exact ⟨⟨hprop _ hinit, halways⟩, hG, heach⟩
      · constructor
        · rintro ⟨⟨_, hrest⟩, hG, _⟩
          have hnow : P (step state event) := by
            cases rest with
            | nil => exact hrest
            | cons _ _ => exact hrest.1
          exact absurd hG (hbreak _ _ hinit hV.1 hC hnow)
        · exact fun h => absurd h.1 hC

end Interaction
