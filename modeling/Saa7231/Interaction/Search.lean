import Saa7231.Interaction.Transcript

/-!
# Searches with an early exit

`search` makes an attempt at each candidate in turn, until one gives a value. Nested loops with a
common exit are one search over a list of candidates (`search_flatMap`). The transcript of a search
is that of the attempts that gave nothing, followed by that of the first that did
(`produces_search_some`, `produces_search_none`).
-/

namespace Interaction.Program

variable {Op : Type} {Ans : Op → Type} {β τ υ : Type}

/-- Runs the second program when the first gives nothing. -/
def orElse (first second : Program Op Ans (Option β)) : Program Op Ans (Option β) := do
  match ← first with
  | some value => pure (some value)
  | none => second

/-- Makes the attempts at the candidates in turn, until one gives a value. -/
def search (attempt : τ → Program Op Ans (Option β)) : List τ → Program Op Ans (Option β)
  | [] => pure none
  | candidate :: rest => orElse (attempt candidate) (search attempt rest)

theorem orElse_none (program : Program Op Ans (Option β)) :
    orElse program (pure none) = program := by
  have hcontinue : (fun found : Option β => (match found with
      | some value => pure (some value)
      | none => pure none : Program Op Ans (Option β))) = pure := by
    funext found
    cases found <;> rfl
  unfold orElse
  rw [hcontinue, bind_pure]

theorem orElse_assoc (first second third : Program Op Ans (Option β)) :
    orElse (orElse first second) third = orElse first (orElse second third) := by
  unfold orElse
  rw [bind_assoc]
  refine congrArg (first >>= ·) (funext fun found => ?_)
  cases found with
  | none => rfl
  | some value => rfl

theorem Only.orElse {P : Op → Prop} {first second : Program Op Ans (Option β)}
    (hfirst : first.Only P) (hsecond : second.Only P) : (Program.orElse first second).Only P := by
  refine Only.bind hfirst fun found => ?_
  cases found with
  | none => exact hsecond
  | some value => exact only_pure _

variable {attempt : τ → Program Op Ans (Option β)}

theorem search_append (first second : List τ) :
    search attempt (first ++ second) = orElse (search attempt first) (search attempt second) := by
  induction first with
  | nil => rfl
  | cons candidate rest ih =>
      show orElse (attempt candidate) (search attempt (rest ++ second)) = _
      rw [ih, ← orElse_assoc]
      rfl

/-- A search whose attempts are searches. -/
theorem search_flatMap (candidates : υ → List τ) (outer : List υ) :
    search (fun place => search attempt (candidates place)) outer =
      search attempt (outer.flatMap candidates) := by
  induction outer with
  | nil => rfl
  | cons place rest ih =>
      rw [List.flatMap_cons, search_append, ← ih]
      rfl

/-- A search performs what its attempts perform. -/
theorem Only.search {P : Op → Prop} (h : ∀ candidate, (attempt candidate).Only P)
    (candidates : List τ) : (Program.search attempt candidates).Only P := by
  induction candidates with
  | nil => exact only_pure none
  | cons candidate rest ih => exact (h candidate).orElse ih

/-! ## Runs -/

/-- What a search leaves behind, where `leaves` is what an attempt does to a state in which `ready`
holds: an attempt that gives nothing must leave such a state. The last attempt made is the one that
gave the value, or the last of the candidates. -/
theorem run_search {σ : Type} {world : World Op Ans σ} (ready : σ → Prop)
    (leaves : τ → Option β → σ → Prop) {candidates : List τ}
    (hattempt : ∀ candidate ∈ candidates, ∀ state, ready state → leaves candidate
      ((attempt candidate).run world state).1 ((attempt candidate).run world state).2)
    (hagain : ∀ candidate ∈ candidates, ∀ state, leaves candidate none state → ready state)
    (hne : candidates ≠ []) {state : σ} (hready : ready state) :
    (∃ candidate ∈ candidates, ∃ found,
        ((search attempt candidates).run world state).1 = some found ∧
        leaves candidate (some found) ((search attempt candidates).run world state).2) ∨
      (((search attempt candidates).run world state).1 = none ∧
        leaves (candidates.getLast hne) none ((search attempt candidates).run world state).2) := by
  induction candidates generalizing state with
  | nil => exact absurd rfl hne
  | cons candidate rest ih =>
      obtain ⟨hhead, hattempts⟩ := List.forall_mem_cons.mp hattempt
      obtain ⟨hnext, hagains⟩ := List.forall_mem_cons.mp hagain
      have hfirst := hhead state hready
      rw [search, orElse, run_bind]
      cases hfound : ((attempt candidate).run world state).1 with
      | some found =>
          rw [hfound] at hfirst
          exact Or.inl ⟨candidate, List.mem_cons_self, found, rfl, hfirst⟩
      | none =>
          rw [hfound] at hfirst
          cases rest with
          | nil => exact Or.inr ⟨rfl, hfirst⟩
          | cons next rest =>
              obtain ⟨other, hother, found, hresult, hleaves⟩ | hnone :=
                ih hattempts hagains (List.cons_ne_nil _ _) (hnext _ hfirst)
              · exact Or.inl ⟨other, List.mem_cons_of_mem _ hother, found, hresult, hleaves⟩
              · exact Or.inr hnone

/-! ## Transcripts -/

/-- The steps consist of one part for each candidate, in order, which `R` relates to it. -/
inductive Parts {ε : Type} (R : τ → List ε → Prop) : List τ → List ε → Prop
  | nil : Parts R [] []
  | cons {candidate : τ} {rest : List τ} {first steps : List ε}
      (hfirst : R candidate first) (hrest : Parts R rest steps) :
      Parts R (candidate :: rest) (first ++ steps)

theorem Parts.imp {ε : Type} {R R' : τ → List ε → Prop} {candidates : List τ} {steps : List ε}
    (h : Parts R candidates steps)
    (hR : ∀ candidate steps, R candidate steps → R' candidate steps) :
    Parts R' candidates steps := by
  induction h with
  | nil => exact .nil
  | cons hfirst _ ih => exact .cons (hR _ _ hfirst) ih

/-- An attempt at the candidate that gave nothing. -/
def Fruitless (attempt : τ → Program Op Ans (Option β)) (candidate : τ)
    (steps : List (Exchange Op Ans)) : Prop := Produces (attempt candidate) steps none

variable {candidates : List τ} {steps : List (Exchange Op Ans)} {value : β}

/-- The second program adds its transcript to one of the first that gave nothing. -/
theorem produces_orElse {first second : Program Op Ans (Option β)} {result : Option β} :
    Produces (orElse first second) steps result ↔
      (Produces first steps result ∧ result.isSome) ∨
        ∃ before after, steps = before ++ after ∧ Produces first before none ∧
          Produces second after result := by
  unfold orElse
  rw [produces_bind]
  constructor
  · intro h
    obtain ⟨before, found, after, rfl, hfirst, hrest⟩ := h
    cases found with
    | none => exact Or.inr ⟨before, after, rfl, hfirst, hrest⟩
    | some value =>
        obtain ⟨rfl, rfl⟩ := produces_pure.mp hrest
        exact Or.inl ⟨by rwa [List.append_nil], rfl⟩
  · intro h
    obtain ⟨hfirst, hsome⟩ | ⟨before, after, rfl, hfirst, hrest⟩ := h
    · obtain ⟨value, rfl⟩ := Option.isSome_iff_exists.mp hsome
      exact ⟨steps, some value, [], (List.append_nil steps).symm, hfirst,
        produces_pure.mpr ⟨rfl, rfl⟩⟩
    · exact ⟨before, none, after, rfl, hfirst, hrest⟩

/-- A search that gives nothing made every attempt in vain. -/
theorem produces_search_none :
    Produces (search attempt candidates) steps none ↔
      Parts (Fruitless attempt) candidates steps := by
  induction candidates generalizing steps with
  | nil =>
      constructor
      · intro h
        obtain ⟨rfl, -⟩ := produces_pure.mp h
        exact .nil
      · intro h
        cases h with
        | nil => exact produces_pure.mpr ⟨rfl, rfl⟩
  | cons candidate rest ih =>
      constructor
      · intro h
        obtain ⟨_, hsome⟩ | ⟨before, after, rfl, hfirst, hrest⟩ := produces_orElse.mp h
        · cases hsome
        · exact .cons hfirst (ih.mp hrest)
      · intro h
        cases h with
        | cons hfirst hrest =>
            exact produces_orElse.mpr (Or.inr ⟨_, _, rfl, hfirst, ih.mpr hrest⟩)

/-- A search that gives a value stopped at the first candidate whose attempt gave it. -/
theorem produces_search_some :
    Produces (search attempt candidates) steps (some value) ↔
      ∃ before candidate after failed last, candidates = before ++ candidate :: after ∧
        steps = failed ++ last ∧ Parts (Fruitless attempt) before failed ∧
        Produces (attempt candidate) last (some value) := by
  induction candidates generalizing steps with
  | nil =>
      constructor
      · intro h
        obtain ⟨-, heq⟩ := produces_pure.mp h
        cases heq
      · intro h
        obtain ⟨before, candidate, after, _, _, hsplit, _⟩ := h
        exact absurd hsplit.symm (List.append_ne_nil_of_right_ne_nil _ (List.cons_ne_nil _ _))
  | cons candidate rest ih =>
      constructor
      · intro h
        obtain ⟨hfirst, -⟩ | ⟨first, second, rfl, hfirst, hrest⟩ := produces_orElse.mp h
        · exact ⟨[], candidate, rest, [], steps, rfl, rfl, .nil, hfirst⟩
        · obtain ⟨before, found, after, failed, last, rfl, rfl, hfailed, hlast⟩ := ih.mp hrest
          exact ⟨candidate :: before, found, after, first ++ failed, last, rfl,
            (List.append_assoc _ _ _).symm, .cons hfirst hfailed, hlast⟩
      · intro h
        obtain ⟨before, found, after, failed, last, hsplit, rfl, hfailed, hlast⟩ := h
        cases hfailed with
        | nil =>
            obtain ⟨rfl, rfl⟩ := List.cons.inj hsplit
            exact produces_orElse.mpr (Or.inl ⟨hlast, rfl⟩)
        | cons hfirst hfailed =>
            obtain ⟨rfl, rfl⟩ := List.cons.inj hsplit
            have hrest := ih.mpr ⟨_, found, after, _, last, rfl, rfl, hfailed, hlast⟩
            exact produces_orElse.mpr (Or.inr ⟨_, _, List.append_assoc _ _ _, hfirst, hrest⟩)

end Interaction.Program
