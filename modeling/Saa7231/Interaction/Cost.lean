import Saa7231.Interaction.Relabel
import Saa7231.Interaction.Search

/-!
# The cost of runs

Every operation has a price, and a run costs the sum of the prices of what it performed. `Within`
bounds the cost of all runs of a program, for each value that a run can return; `Attains` says that
some run costs exactly that much. Both have a rule for composition and one for searches.
-/

namespace Interaction.Program

variable {Op : Type} {Ans : Op → Type} {α β τ : Type}

/-- What the operations of a transcript cost. -/
def cost (price : Op → Nat) : List (Exchange Op Ans) → Nat
  | [] => 0
  | step :: steps => price step.1 + cost price steps

/-- Every run that returns a value costs at most the bound for it. -/
def Within (price : Op → Nat) (bound : α → Nat) (program : Program Op Ans α) : Prop :=
  ∀ steps value, Produces program steps value → cost price steps ≤ bound value

/-- Some run that returns the value costs exactly that much. -/
def Attains (price : Op → Nat) (program : Program Op Ans α) (value : α) (total : Nat) : Prop :=
  ∃ steps, Produces program steps value ∧ cost price steps = total

variable {price : Op → Nat}

@[simp] theorem cost_nil : cost price ([] : List (Exchange Op Ans)) = 0 := rfl

@[simp] theorem cost_cons (step : Exchange Op Ans) (steps : List (Exchange Op Ans)) :
    cost price (step :: steps) = price step.1 + cost price steps := rfl

@[simp] theorem cost_append (first second : List (Exchange Op Ans)) :
    cost price (first ++ second) = cost price first + cost price second := by
  induction first with
  | nil => exact (Nat.zero_add _).symm
  | cons step rest ih => rw [List.cons_append, cost_cons, ih, cost_cons, Nat.add_assoc]

/-! ## All runs -/

section Within

variable {bound : α → Nat}

/-- A value costs nothing. -/
theorem within_pure {value : α} : Within price bound (pure value : Program Op Ans α) := by
  intro steps result h
  obtain ⟨rfl, -⟩ := produces_pure.mp h
  exact Nat.zero_le _

/-- The end of a straight line of operations. -/
theorem within_end {value : α} :
    Within price (fun _ => 0) (pure value : Program Op Ans α) := within_pure

/-- An operation costs its price. -/
theorem within_perform {op : Op} {n : Nat} (hprice : price op ≤ n) :
    Within price (fun _ => n) (perform op : Program Op Ans (Ans op)) := by
  intro steps result h
  obtain rfl := produces_perform.mp h
  rw [cost_cons, cost_nil]
  exact hprice

/-- A larger bound holds as well. -/
theorem Within.mono {bound' : α → Nat} {program : Program Op Ans α}
    (h : Within price bound program) (hle : ∀ value, bound value ≤ bound' value) :
    Within price bound' program :=
  fun steps value hrun => Nat.le_trans (h steps value hrun) (hle value)

/-- A constant bound, for a transcript. -/
theorem Within.le {n : Nat} {program : Program Op Ans α} (h : Within price (fun _ => n) program)
    {steps : List (Exchange Op Ans)} {value : α} (hrun : Produces program steps value) :
    cost price steps ≤ n :=
  h steps value hrun

/-- The costs of the parts add up, where the second bound may depend on the value between them. -/
theorem Within.bind {first : α → Nat} {second : α → β → Nat} {total : β → Nat}
    {program : Program Op Ans α} {f : α → Program Op Ans β} (hfirst : Within price first program)
    (hrest : ∀ value, Within price (second value) (f value))
    (htotal : ∀ value result, first value + second value result ≤ total result) :
    Within price total (program >>= f) := by
  intro steps result h
  obtain ⟨before, middle, after, rfl, hprogram, hf⟩ := produces_bind.mp h
  have hbefore := hfirst before middle hprogram
  have hafter := hrest middle after result hf
  have hsum := htotal middle result
  rw [cost_append]
  omega

/-- Bounds that do not depend on the values. -/
theorem Within.andThen {first second : Nat} {program : Program Op Ans α}
    {f : α → Program Op Ans β} (hfirst : Within price (fun _ => first) program)
    (hrest : ∀ value, Within price (fun _ => second) (f value)) :
    Within price (fun _ => first + second) (program >>= f) :=
  hfirst.bind hrest fun _ _ => Nat.le_refl _

/-- A bound that both branches keep. -/
theorem within_ite {c : Prop} [Decidable c] {yes no : Program Op Ans α}
    (hyes : c → Within price bound yes) (hno : ¬ c → Within price bound no) :
    Within price bound (if c then yes else no) := by
  split
  next h => exact hyes h
  next h => exact hno h

/-- A search costs at most as much as an attempt at every candidate. -/
theorem within_search {attempt : τ → Program Op Ans (Option β)} {n : Nat}
    (hattempt : ∀ candidate, Within price (fun _ => n) (attempt candidate)) (candidates : List τ) :
    Within price (fun _ => candidates.length * n) (search attempt candidates) := by
  induction candidates with
  | nil => exact within_pure
  | cons candidate rest ih =>
      intro steps found h
      show cost price steps ≤ (rest.length + 1) * n
      rw [Nat.succ_mul]
      obtain ⟨hfirst, -⟩ | ⟨before, after, rfl, hfirst, hrest⟩ := produces_orElse.mp h
      · exact Nat.le_trans (hattempt candidate _ _ hfirst) (Nat.le_add_left _ _)
      · have hbefore : cost price before ≤ n := hattempt candidate _ _ hfirst
        have hafter : cost price after ≤ rest.length * n := ih _ _ hrest
        rw [cost_append]
        omega

end Within

/-! ## Some run -/

section Attains

/-- Nothing is what a value attains. -/
theorem attains_pure {value : α} : Attains price (pure value : Program Op Ans α) value 0 :=
  ⟨[], produces_pure.mpr ⟨rfl, rfl⟩, rfl⟩

/-- What the parts attain is attained together. -/
theorem Attains.bind {program : Program Op Ans α} {f : α → Program Op Ans β} {value : α}
    {result : β} {first second : Nat} (hfirst : Attains price program value first)
    (hrest : Attains price (f value) result second) :
    Attains price (program >>= f) result (first + second) := by
  obtain ⟨before, hprogram, rfl⟩ := hfirst
  obtain ⟨after, hf, rfl⟩ := hrest
  exact ⟨before ++ after, produces_bind.mpr ⟨before, value, after, rfl, hprogram, hf⟩,
    cost_append _ _⟩

/-- The total may be written differently. -/
theorem Attains.cast {program : Program Op Ans α} {value : α} {total total' : Nat}
    (h : Attains price program value total) (heq : total = total') :
    Attains price program value total' := heq ▸ h

/-- A run of a program all of whose runs are free. -/
theorem Within.attains {program : Program Op Ans α} (h : Within price (fun _ => 0) program)
    {σ : Type} (world : World Op Ans σ) (state : σ) : ∃ value, Attains price program value 0 :=
  have hrun := produces_run world program state
  ⟨_, _, hrun, Nat.le_zero.mp (h _ _ hrun)⟩

/-- A search in vain through candidates that all cost the same. -/
theorem attains_search {attempt : τ → Program Op Ans (Option β)} {n : Nat} {candidates : List τ}
    (hattempt : ∀ candidate ∈ candidates, Attains price (attempt candidate) none n) :
    Attains price (search attempt candidates) none (candidates.length * n) := by
  induction candidates with
  | nil => exact attains_pure.cast (Nat.zero_mul n).symm
  | cons candidate rest ih =>
      obtain ⟨hfirst, hrest⟩ := List.forall_mem_cons.mp hattempt
      refine (hfirst.bind (ih hrest)).cast ?_
      rw [List.length_cons, Nat.succ_mul, Nat.add_comm]

end Attains

/-! ## Renamed operations -/

section Relabel

variable {Op' : Type} {Ans' : Op' → Type} {price' : Op' → Nat} {f : Op → Op'}
  {answer : (op : Op) → Ans' (f op) → Ans op} {program : Program Op Ans α}

/-- Operations of the same price keep the bound. -/
theorem Within.relabel {bound : α → Nat} (h : Within price bound program)
    (hprice : ∀ op, price' (f op) = price op) :
    Within price' bound (program.relabel f answer) := by
  intro steps value hrun
  obtain ⟨steps', hsteps', hrenamed⟩ := produces_relabel hrun
  have hcost : cost price' steps = cost price steps' := by
    clear hsteps' hrun
    induction hrenamed with
    | nil => rfl
    | cons hstep _ ih =>
        obtain ⟨op, reply, rfl, rfl⟩ := hstep
        rw [cost_cons, cost_cons, ih, hprice]
  rw [hcost]
  exact h steps' value hsteps'

/-- They attain the same. -/
theorem Attains.relabel {value : α} {total : Nat} (h : Attains price program value total)
    (hprice : ∀ op, price' (f op) = price op)
    (hreply : ∀ op reply, ∃ reply', answer op reply' = reply) :
    Attains price' (program.relabel f answer) value total := by
  obtain ⟨steps, hrun, rfl⟩ := h
  induction hrun with
  | ret value => exact ⟨[], .ret value, rfl⟩
  | @call op next found steps value _ ih =>
      obtain ⟨reply, rfl⟩ := hreply op found
      obtain ⟨steps', hsteps', hcost⟩ := ih
      exact ⟨⟨f op, reply⟩ :: steps', .call hsteps', by rw [cost_cons, cost_cons, hcost, hprice]⟩

end Relabel

end Interaction.Program
