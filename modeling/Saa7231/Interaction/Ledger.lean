import Saa7231.Interaction.Ownership
import Saa7231.Interaction.Transcript
import Mathlib.Data.List.Perm.Basic

/-!
# The ledger of a transcript

Which resources the operations of a transcript acquired, and which they released. A transcript
is `Balanced` when everything acquired was released, each resource as often as it was acquired,
and nothing else was. A resource that was acquired and not released keeps it from being balanced.
-/

namespace Interaction

variable {Op : Type} {Ans : Op → Type} {R α β : Type}

namespace Tenure

variable (tenure : Tenure Op Ans R)

/-- The resources acquired, in order. -/
def acquired (steps : List (Exchange Op Ans)) : List R :=
  steps.filterMap fun step => tenure.granted step.1 step.2

/-- The resources released, in order. -/
def releases (steps : List (Exchange Op Ans)) : List R :=
  steps.filterMap fun step => tenure.released step.1

/-- The resource was acquired and not released. -/
def Holds (steps : List (Exchange Op Ans)) (resource : R) : Prop :=
  resource ∈ tenure.acquired steps ∧ resource ∉ tenure.releases steps

/-- Everything acquired was released, each once, and nothing else was. -/
def Balanced (steps : List (Exchange Op Ans)) : Prop :=
  (tenure.releases steps).Perm (tenure.acquired steps)

variable {tenure} {steps steps' : List (Exchange Op Ans)} {resource : R}

@[simp] theorem acquired_nil : tenure.acquired ([] : List (Exchange Op Ans)) = [] := rfl

@[simp] theorem releases_nil : tenure.releases ([] : List (Exchange Op Ans)) = [] := rfl

/-- A step acquires what it is granted. -/
theorem acquired_cons (step : Exchange Op Ans) : tenure.acquired (step :: steps) =
    (tenure.granted step.1 step.2).toList ++ tenure.acquired steps := by
  unfold acquired
  rw [List.filterMap_cons]
  cases tenure.granted step.1 step.2 <;> rfl

/-- A step releases what it names. -/
theorem releases_cons (step : Exchange Op Ans) : tenure.releases (step :: steps) =
    (tenure.released step.1).toList ++ tenure.releases steps := by
  unfold releases
  rw [List.filterMap_cons]
  cases tenure.released step.1 <;> rfl

@[simp] theorem acquired_append :
    tenure.acquired (steps ++ steps') = tenure.acquired steps ++ tenure.acquired steps' :=
  List.filterMap_append

@[simp] theorem releases_append :
    tenure.releases (steps ++ steps') = tenure.releases steps ++ tenure.releases steps' :=
  List.filterMap_append

/-- What some steps acquire is acquired in every transcript with these steps. -/
theorem acquired_mono (h : resource ∈ tenure.acquired steps)
    (hsteps : ∀ step ∈ steps, step ∈ steps') : resource ∈ tenure.acquired steps' := by
  obtain ⟨step, hstep, hgranted⟩ := List.mem_filterMap.mp h
  exact List.mem_filterMap.mpr ⟨step, hsteps step hstep, hgranted⟩

/-- What is released in the reverse order of its acquisition is balanced. -/
theorem balanced_of_reverse
    (h : tenure.releases steps = (tenure.acquired steps).reverse) : tenure.Balanced steps := by
  unfold Balanced
  rw [h]
  exact List.reverse_perm _

/-- A ledger with a resource that is held is not balanced. -/
theorem Holds.not_balanced (h : tenure.Holds steps resource) : ¬ tenure.Balanced steps :=
  fun hbalanced => h.2 (hbalanced.mem_iff.mpr h.1)

theorem Holds.append_right (h : tenure.Holds steps resource)
    (hkept : resource ∉ tenure.releases steps') : tenure.Holds (steps ++ steps') resource := by
  refine ⟨?_, ?_⟩
  · rw [acquired_append]
    exact List.mem_append_left _ h.1
  · rw [releases_append]
    exact fun hmem => (List.mem_append.mp hmem).elim h.2 hkept

/-- The operation does not release the resource. -/
def Spares (tenure : Tenure Op Ans R) (resource : R) (op : Op) : Prop :=
  tenure.released op ≠ some resource

theorem not_mem_releases (h : ∀ step ∈ steps, tenure.Spares resource step.1) :
    resource ∉ tenure.releases steps := by
  intro hmem
  obtain ⟨step, hstep, hreleased⟩ := List.mem_filterMap.mp hmem
  exact h step hstep hreleased

end Tenure

end Interaction
