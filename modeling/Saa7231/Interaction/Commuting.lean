import Mathlib.Logic.Basic

/-!
# Interleavings of commuting events

Every event of a run is of one kind. If events of different kinds commute, then only the order
within each kind matters: two runs with the same sequence of each kind, interleaved in any two
ways, end in the same state (`foldl_eq_of_same_sequences`).
-/

namespace Interaction

variable {σ ε κ : Type}

/-- Events of different kinds can be exchanged in every state of the invariant. -/
def Commutes (step : σ → ε → σ) (kind : ε → κ) (Inv : σ → Prop) : Prop :=
  ∀ state first second, Inv state → kind first ≠ kind second →
    step (step state first) second = step (step state second) first

variable {step : σ → ε → σ} {kind : ε → κ} {Inv : σ → Prop}

/-- An event can be moved in front of events of other kinds. -/
theorem foldl_move_front (hcomm : Commutes step kind Inv)
    (hkeep : ∀ state event, Inv state → Inv (step state event)) {before rest : List ε} {event : ε}
    (hother : ∀ other ∈ before, kind other ≠ kind event) {state : σ} (hinv : Inv state) :
    (before ++ event :: rest).foldl step state =
      (before ++ rest).foldl step (step state event) := by
  induction before generalizing state with
  | nil => rfl
  | cons first before ih =>
      have hfirst : kind first ≠ kind event := hother first List.mem_cons_self
      have hlater : ∀ other ∈ before, kind other ≠ kind event :=
        fun other hmem => hother other (List.mem_cons_of_mem first hmem)
      show (before ++ event :: rest).foldl step (step state first) =
        (before ++ rest).foldl step (step (step state event) first)
      rw [ih hlater (hkeep state first hinv), hcomm state first event hinv hfirst]

variable [DecidableEq κ]

/-- The two lists interleave the same sequences, one of each kind. -/
def SameSequences (kind : ε → κ) (events events' : List ε) : Prop :=
  ∀ k, events.filter (kind · = k) = events'.filter (kind · = k)

/-- Taking the first event of a run out of another run with the same sequences leaves runs with
the same sequences. -/
theorem same_sequences_cons {event : ε} {rest events' : List ε}
    (h : SameSequences kind (event :: rest) events') :
    ∃ before after, events' = before ++ event :: after ∧
      (∀ other ∈ before, kind other ≠ kind event) ∧ SameSequences kind rest (before ++ after) := by
  -- The other run is split at its first event of this kind, which is the same event.
  have hown := h (kind event)
  rw [List.filter_cons_of_pos (by simp), eq_comm, List.filter_eq_cons_iff] at hown
  obtain ⟨before, after, rfl, hbefore, -, hafter⟩ := hown
  have hother : ∀ other ∈ before, kind other ≠ kind event := fun other hmem heq =>
    hbefore other hmem (decide_eq_true heq)
  refine ⟨before, after, rfl, hother, fun k => ?_⟩
  by_cases hk : kind event = k
  · subst hk
    have hnone : before.filter (kind · = kind event) = [] :=
      List.filter_eq_nil_iff.mpr hbefore
    rw [List.filter_append, hnone, hafter, List.nil_append]
  · have hall := h k
    simpa [List.filter_append, List.filter_cons, hk] using hall

/-- Two interleavings of the same sequences end in the same state. -/
theorem foldl_eq_of_same_sequences (hcomm : Commutes step kind Inv)
    (hkeep : ∀ state event, Inv state → Inv (step state event)) {events events' : List ε}
    (hsame : SameSequences kind events events') {state : σ} (hinv : Inv state) :
    events.foldl step state = events'.foldl step state := by
  induction events generalizing events' state with
  | nil =>
      cases events' with
      | nil => rfl
      | cons event rest =>
          have hnone := hsame (kind event)
          rw [List.filter_nil, List.filter_cons_of_pos (by simp)] at hnone
          exact absurd hnone (List.cons_ne_nil _ _).symm
  | cons event rest ih =>
      obtain ⟨before, after, rfl, hother, hrest⟩ := same_sequences_cons hsame
      -- Both runs begin with the same event once it is moved to the front of the other one.
      rw [foldl_move_front hcomm hkeep hother hinv]
      exact ih hrest (hkeep state event hinv)

end Interaction
