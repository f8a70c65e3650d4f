import Saa7231.Interaction.Runs

/-!
# Simulation of a run by a labelled transition relation

The events of a run show labels, which may depend on the state they are taken in. `Path` says
that a transition relation accepts a list of labels from one state to another. If every valid
event is matched by a transition that keeps a relation between the two states, then every
valid run is matched by a path (`path_of_each`).
-/

namespace Interaction

variable {σ ε τ ο : Type}

/-- The labels that the events of a run show. -/
def labels (step : σ → ε → σ) (shows : σ → ε → ο) : σ → List ε → List ο
  | _, [] => []
  | state, event :: rest => shows state event :: labels step shows (step state event) rest

/-- The transition relation accepts the labels from the first state to the second. -/
inductive Path (T : τ → ο → τ → Prop) : τ → List ο → τ → Prop
  | nil (t : τ) : Path T t [] t
  | cons {t t₁ t' : τ} {label : ο} {rest : List ο} (hstep : T t label t₁)
      (hrest : Path T t₁ rest t') : Path T t (label :: rest) t'

variable {step : σ → ε → σ} {shows : σ → ε → ο} {V : σ → ε → Prop} {T : τ → ο → τ → Prop}
  {R : σ → τ → Prop}

/-- Forward simulation: what one event keeps, a run keeps. -/
theorem path_of_each {state : σ} {t : τ} {events : List ε} (hinit : R state t)
    (hstep : ∀ s t e, R s t → V s e → ∃ t', T t (shows s e) t' ∧ R (step s e) t')
    (hV : Each step V state events) :
    ∃ t', Path T t (labels step shows state events) t' ∧ R (events.foldl step state) t' := by
  induction events generalizing state t with
  | nil => exact ⟨t, .nil t, hinit⟩
  | cons event rest ih =>
      obtain ⟨t₁, hfirst, hrel⟩ := hstep state t event hinit hV.1
      obtain ⟨t', hpath, hend⟩ := ih hrel hV.2
      exact ⟨t', .cons hfirst hpath, hend⟩

end Interaction
