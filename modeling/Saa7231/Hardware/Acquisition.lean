import Saa7231.Hardware.Board
import Mathlib.Data.List.Nodup
import Mathlib.Data.List.Perm.Basic

/-!
# What a program acquires and what it releases

`Board.Grows` says that no live resource was lost, `Board.Acquires` which resources became live:
each once, and none that was live before. A mapping of a scatterlist is acquired together with
the scatterlist, which makes it new as well. `Board.releaseAll` releases a list of resources.
-/

namespace Saa7231

open Interaction

/-- Every resource live on the first board is live on the second. -/
def Board.Grows (board board' : Board) : Prop :=
  ∀ resource, board.live resource = true → board'.live resource = true

/-- The kernel grants the resource only while it is not live. A scatterlist can be mapped
again. -/
def Resource.Granted : Resource → Prop
  | .sg _ => False
  | _ => True

/-- The resources of a list became live, each once, and no other did. -/
structure Board.Acquires (board board' : Board) (resources : List Resource) : Prop where
  live : ∀ resource, board'.live resource = true ↔
    board.live resource = true ∨ resource ∈ resources
  fresh : ∀ resource ∈ resources, resource.Granted → board.live resource = false
  nodup : resources.Nodup
  /-- The mapped scatterlists are among the resources. -/
  backed : ∀ list, .sg list ∈ resources → .kmem list ∈ resources
  released : board'.released = board.released

namespace Board

/-- A board grows and grows again. -/
theorem Grows.trans {board board' board'' : Board} (h : board.Grows board')
    (h' : board'.Grows board'') : board.Grows board'' :=
  fun resource hlive => h' resource (h resource hlive)

/-- It grows if nothing of it changes. -/
theorem Grows.of_live {board board' : Board} (h : board'.live = board.live) :
    board.Grows board' := by
  intro resource hlive
  rw [h]
  exact hlive

/-- Acquiring lets a board grow. -/
theorem acquire_grows (board : Board) (resource : Option Resource) :
    board.Grows (board.acquire resource) := by
  intro other hlive
  cases resource with
  | none => exact hlive
  | some resource =>
      by_cases hsame : other = resource
      · rw [hsame]
        exact Function.update_self _ _ _
      · exact (Function.update_of_ne hsame _ _).trans hlive

/-- What is live after it was live before or is the resource. -/
theorem live_acquire_iff (board : Board) (resource other : Resource) :
    (board.acquire (some resource)).live other = true ↔
      board.live other = true ∨ other = resource := by
  show Function.update board.live resource true other = true ↔ _
  by_cases hsame : other = resource
  · simp [hsame]
  · simp [hsame]

/-- A granted bus address is not live yet. -/
theorem grant_address_fresh {board : Board} {env : Environment}
    (h : board.grantAddress env ≠ 0) : board.live (.single (board.grantAddress env)) = false := by
  unfold grantAddress at h ⊢
  dsimp only at h ⊢
  split at h <;> simp_all

/-- A handle that is granted was not in use. -/
theorem grant_fresh {board : Board} {env : Environment} {kind : Nat → Resource} {handle : Nat}
    (h : board.grant env kind = some handle) : board.live (kind handle) = false := by
  have hfree := (Option.filter_eq_some_iff.mp h).2
  simpa using hfree

/-- Nor was an area. -/
theorem grant_area_fresh {board : Board} {env : Environment} {size : BitVec 64} {handle : Nat}
    (h : board.grantArea env size = some handle) : board.live (.vmem handle) = false := by
  unfold grantArea at h
  split at h
  next => cases h
  next => exact grant_fresh h

/-! ## Acquisitions -/

namespace Acquires

variable {board board' board'' : Board} {resources resources' : List Resource}

/-- What is acquired is added. -/
theorem grows (h : board.Acquires board' resources) : board.Grows board' :=
  fun resource hlive => (h.live resource).mpr (Or.inl hlive)

/-- It is live then. -/
theorem live_of_mem (h : board.Acquires board' resources) {resource : Resource}
    (hmem : resource ∈ resources) : board'.live resource = true :=
  (h.live resource).mpr (Or.inr hmem)

/-- Nothing is acquired where the ledger is the same. -/
theorem of_same (hlive : board'.live = board.live) (hreleased : board'.released = board.released) :
    board.Acquires board' [] where
  live := by simp [hlive]
  fresh := nofun
  nodup := List.nodup_nil
  backed := nofun
  released := hreleased

/-- One granted resource. -/
theorem single (resource : Resource) (hgranted : resource.Granted)
    (hfree : board.live resource = false) :
    board.Acquires (board.acquire (some resource)) [resource] where
  live other := by rw [board.live_acquire_iff, List.mem_singleton]
  fresh other hmem _ := by
    rw [List.mem_singleton.mp hmem]
    exact hfree
  nodup := List.nodup_singleton resource
  backed list hmem := by
    rw [← List.mem_singleton.mp hmem] at hgranted
    exact hgranted.elim
  released := rfl

/-- What is acquired later was not acquired before. -/
theorem trans (h : board.Acquires board' resources) (h' : board'.Acquires board'' resources') :
    board.Acquires board'' (resources' ++ resources) := by
  have hout : ∀ resource ∈ resources', resource.Granted → resource ∉ resources := by
    intro resource hmem hgranted hbefore
    have hfree := h'.fresh resource hmem hgranted
    rw [h.live_of_mem hbefore] at hfree
    exact Bool.noConfusion hfree
  refine ⟨?_, ?_, ?_, ?_, h'.released.trans h.released⟩
  · intro resource
    rw [h'.live, h.live, List.mem_append]
    tauto
  · intro resource hmem hgranted
    rcases List.mem_append.mp hmem with hlater | hbefore
    · have hfree := h'.fresh resource hlater hgranted
      by_contra hlive
      rw [h.grows resource (Bool.not_eq_false _ ▸ hlive)] at hfree
      exact Bool.noConfusion hfree
    · exact h.fresh resource hbefore hgranted
  · refine List.nodup_append.mpr ⟨h'.nodup, h.nodup, ?_⟩
    rintro resource hlater other hbefore rfl
    cases resource with
    | sg list => exact hout _ (h'.backed list hlater) trivial (h.backed list hbefore)
    | _ => exact hout _ hlater trivial hbefore
  · intro list hmem
    rcases List.mem_append.mp hmem with hlater | hbefore
    · exact List.mem_append_left _ (h'.backed list hlater)
    · exact List.mem_append_right _ (h.backed list hbefore)

/-- The mapping of a scatterlist that was acquired. -/
theorem map_list (h : board.Acquires board' resources) {list : Nat}
    (hlist : Resource.kmem list ∈ resources) (hnew : Resource.sg list ∉ resources) :
    board.Acquires (board'.acquire (some (.sg list))) (.sg list :: resources) where
  live other := by
    rw [board'.live_acquire_iff, h.live, List.mem_cons]
    tauto
  fresh other hmem hgranted := by
    rcases List.mem_cons.mp hmem with rfl | hbefore
    · exact hgranted.elim
    · exact h.fresh other hbefore hgranted
  nodup := List.nodup_cons.mpr ⟨hnew, h.nodup⟩
  backed other hmem := by
    rcases List.mem_cons.mp hmem with heq | hbefore
    · cases heq
      exact List.mem_cons_of_mem _ hlist
    · exact List.mem_cons_of_mem _ (h.backed other hbefore)
  released := h.released

/-- The order does not matter. -/
theorem perm (h : board.Acquires board' resources) (hperm : resources'.Perm resources) :
    board.Acquires board' resources' where
  live resource := by rw [h.live, hperm.mem_iff]
  fresh resource hmem := h.fresh resource (hperm.mem_iff.mp hmem)
  nodup := hperm.nodup_iff.mpr h.nodup
  backed list hmem := hperm.mem_iff.mpr (h.backed list (hperm.mem_iff.mp hmem))
  released := h.released

/-- The boards may differ in anything but the ledger. -/
theorem of_ledger {before after : Board} (h : board.Acquires board' resources)
    (hbefore : before.live = board.live) (hafter : after.live = board'.live)
    (hreleased : after.released = before.released) : before.Acquires after resources where
  live resource := by rw [hafter, hbefore, h.live]
  fresh resource hmem hgranted := by
    rw [hbefore]
    exact h.fresh resource hmem hgranted
  nodup := h.nodup
  backed := h.backed
  released := hreleased

end Acquires

/-! ## Releases -/

/-- Releases resources one after the other. -/
def releaseAll (board : Board) (resources : List Resource) : Board :=
  resources.foldl release board

/-- Releases follow one another. -/
theorem release_all_append (board : Board) (resources resources' : List Resource) :
    board.releaseAll (resources ++ resources') =
      (board.releaseAll resources).releaseAll resources' :=
  List.foldl_append

/-- They are recorded, the last one first. -/
theorem released_release_all (board : Board) (resources : List Resource) :
    (board.releaseAll resources).released = resources.reverse ++ board.released := by
  induction resources generalizing board with
  | nil => rfl
  | cons resource rest ih =>
      rw [List.reverse_cons, List.append_assoc]
      exact ih (board.release resource)

/-- What was released is no longer live. -/
theorem live_release_all (board : Board) (resources : List Resource) (other : Resource) :
    (board.releaseAll resources).live other = true ↔
      board.live other = true ∧ other ∉ resources := by
  induction resources generalizing board with
  | nil => simp [releaseAll]
  | cons resource rest ih =>
      refine (ih (board.release resource)).trans ?_
      show Function.update board.live resource false other = true ∧ _ ↔ _
      by_cases hsame : other = resource
      · simp [hsame]
      · simp [hsame]

end Board

end Saa7231
