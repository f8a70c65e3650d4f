import Saa7231.Interaction.Bus

/-!
# Transcripts of programs

A transcript lists the operations that a program performed, in order, each with its answer.
`Produces` relates a program to its transcripts and values, over all answers at once: a statement
about every transcript is one about every world. `produces_bind` splits the transcript of a
composition, `produces_run` gives the transcript of a run in a world.
-/

namespace Interaction

/-- An operation with the answer it got. -/
abbrev Exchange (Op : Type) (Ans : Op → Type) : Type := (op : Op) × Ans op

namespace Program

variable {Op : Type} {Ans : Op → Type} {α β σ : Type}

/-- With the answers of the transcript, the program performs the operations of the transcript
and returns the value. -/
inductive Produces : Program Op Ans α → List (Exchange Op Ans) → α → Prop
  | ret (value : α) : Produces (.ret value) [] value
  | call {op : Op} {next : Ans op → Program Op Ans α} {answer : Ans op}
      {transcript : List (Exchange Op Ans)} {value : α}
      (hrest : Produces (next answer) transcript value) :
      Produces (.call op next) (⟨op, answer⟩ :: transcript) value

variable {steps : List (Exchange Op Ans)}

@[simp] theorem produces_pure {value result : α} :
    Produces (pure value : Program Op Ans α) steps result ↔
      steps = [] ∧ result = value := by
  constructor
  · intro h
    cases h with
    | ret => exact ⟨rfl, rfl⟩
  · rintro ⟨rfl, rfl⟩
    exact .ret _

/-- A transcript begins with the program's first operation. -/
theorem produces_call {op : Op} {next : Ans op → Program Op Ans α} {value : α} :
    Produces (.call op next) steps value ↔
      ∃ answer rest, steps = ⟨op, answer⟩ :: rest ∧ Produces (next answer) rest value := by
  constructor
  · intro h
    cases h with
    | call hrest => exact ⟨_, _, rfl, hrest⟩
  · rintro ⟨answer, rest, rfl, hrest⟩
    exact .call hrest

/-- The transcript of a composition is one of its first part followed by one of the
continuation. -/
theorem produces_bind {program : Program Op Ans α} {f : α → Program Op Ans β} {value : β} :
    Produces (program >>= f) steps value ↔
      ∃ first middle rest, steps = first ++ rest ∧ Produces program first middle ∧
        Produces (f middle) rest value := by
  induction program generalizing steps with
  | ret middle =>
      constructor
      · intro h
        exact ⟨[], middle, steps, rfl, .ret middle, h⟩
      · rintro ⟨first, middle, rest, rfl, hfirst, hrest⟩
        cases hfirst with
        | ret => exact hrest
  | call op next ih =>
      constructor
      · intro h
        obtain ⟨answer, tail, rfl, htail⟩ := produces_call.mp h
        obtain ⟨first, middle, rest, rfl, hfirst, hrest⟩ := ih answer |>.mp htail
        exact ⟨⟨op, answer⟩ :: first, middle, rest, rfl, .call hfirst, hrest⟩
      · rintro ⟨first, middle, rest, rfl, hfirst, hrest⟩
        cases hfirst with
        | call hnext => exact .call (ih _ |>.mpr ⟨_, middle, rest, rfl, hnext, hrest⟩)

/-- After a transcript of its first part, a composition goes on with the continuation. -/
theorem Produces.continues {program : Program Op Ans α} {f : α → Program Op Ans β}
    {first rest : List (Exchange Op Ans)} {middle : α} {value : β}
    (hfirst : Produces program first middle) (h : Produces (program >>= f) (first ++ rest) value) :
    Produces (f middle) rest value := by
  induction hfirst with
  | ret => exact h
  | call _ ih =>
      obtain ⟨_, _, hsteps, htail⟩ := produces_call.mp h
      obtain ⟨hstep, rfl⟩ := List.cons.inj hsteps
      cases hstep
      exact ih htail

@[simp] theorem produces_perform {op : Op} {answer : Ans op} :
    Produces (perform op : Program Op Ans (Ans op)) steps answer ↔
      steps = [⟨op, answer⟩] := by
  constructor
  · intro h
    obtain ⟨found, rest, rfl, hrest⟩ := produces_call.mp h
    cases hrest with
    | ret => rfl
  · rintro rfl
    exact .call (.ret answer)

/-- Every operation of a transcript is one that the program can perform. -/
theorem Only.produces {P : Op → Prop} {program : Program Op Ans α} (honly : program.Only P)
    {value : α} (h : Produces program steps value) : ∀ step ∈ steps, P step.1 := by
  induction h with
  | ret => exact fun step hstep => absurd hstep List.not_mem_nil
  | call _ ih =>
      intro step hstep
      cases hstep with
      | head => exact honly.1
      | tail _ htail => exact ih (honly.2 _) step htail

/-- A value that every run returns is the value of every transcript. -/
theorem Yields.produces {Q : α → Prop} {program : Program Op Ans α} (hyields : program.Yields Q)
    {value : α} (h : Produces program steps value) : Q value := by
  induction h with
  | ret => exact hyields
  | call _ ih => exact ih (hyields _)

/-- The invariant rule of the counted loop, for values with the transcript so far. -/
theorem produces_loop {τ : Type} {body : Nat → τ → Program Op Ans τ} {n : Nat}
    {I : Nat → τ → List (Exchange Op Ans) → Prop} {start value : τ} (hinit : I 0 start [])
    (hstep : ∀ i < n, ∀ value steps next rest, I i value steps →
      Produces (body i value) rest next → I (i + 1) next (steps ++ rest))
    (h : Produces (loop n body start) steps value) : I n value steps := by
  induction n generalizing steps value with
  | zero =>
      obtain ⟨rfl, rfl⟩ := produces_pure.mp h
      exact hinit
  | succ n ih =>
      obtain ⟨first, middle, rest, rfl, hfirst, hlast⟩ := produces_bind.mp h
      have hprefix := ih (fun i hi => hstep i (Nat.lt_succ_of_lt hi)) hfirst
      exact hstep n n.lt_succ_self middle first value rest hprefix hlast

/-- The transcript of the run in a world. -/
def transcript (world : World Op Ans σ) : Program Op Ans α → σ → List (Exchange Op Ans)
  | .ret _, _ => []
  | .call op next, state =>
      ⟨op, world.answer op state⟩ ::
        (next (world.answer op state)).transcript world (world.after op state)

/-- A run has its own transcript. -/
theorem produces_run (world : World Op Ans σ) (program : Program Op Ans α) (state : σ) :
    Produces program (program.transcript world state) (program.run world state).1 := by
  induction program generalizing state with
  | ret value => exact .ret value
  | call op next ih => exact .call (ih _ _)

/-- The same for a program that returns a pair. -/
theorem produces_run_pair (world : World Op Ans σ) (program : Program Op Ans (α × β)) (state : σ) :
    Produces program (program.transcript world state)
      ((program.run world state).1.1, (program.run world state).1.2) :=
  produces_run world program state

/-- A run that evaluates to a value produces it. -/
theorem produces_of_run {world : World Op Ans σ} {program : Program Op Ans α} {state : σ}
    {value : α} (h : (program.run world state).1 = value) :
    Produces program (program.transcript world state) value :=
  h ▸ produces_run world program state

/-- What holds of every answer of a world holds throughout the transcript of a run. -/
theorem transcript_answers (world : World Op Ans σ) {P : Exchange Op Ans → Prop}
    (hanswer : ∀ op state, P ⟨op, world.answer op state⟩) (program : Program Op Ans α)
    (state : σ) : ∀ step ∈ program.transcript world state, P step := by
  induction program generalizing state with
  | ret => exact fun step hstep => absurd hstep List.not_mem_nil
  | call op next ih =>
      intro step hstep
      cases hstep with
      | head => exact hanswer op state
      | tail _ htail => exact ih _ _ step htail

/-! ## Values with their transcripts -/

/-- Whatever the answers, the value and the transcript are in `Q`. -/
def Traces (Q : α → List (Exchange Op Ans) → Prop) : Program Op Ans α → Prop
  | .ret value => Q value []
  | .call op next => ∀ answer,
      (next answer).Traces fun value steps => Q value (⟨op, answer⟩ :: steps)

variable {Q : α → List (Exchange Op Ans) → Prop}

@[simp] theorem traces_pure {value : α} :
    (pure value : Program Op Ans α).Traces Q ↔ Q value [] := Iff.rfl

/-- The property holds of every transcript and its value. -/
theorem traces_iff_produces {program : Program Op Ans α} :
    program.Traces Q ↔ ∀ steps value, Produces program steps value → Q value steps := by
  induction program generalizing Q with
  | ret value =>
      constructor
      · rintro h steps result hsteps
        cases hsteps with
        | ret => exact h
      · exact fun h => h _ _ (.ret value)
  | call op next ih =>
      constructor
      · rintro h steps result hsteps
        cases hsteps with
        | call hrest => exact (ih _).mp (h _) _ _ hrest
      · exact fun h answer => (ih answer).mpr fun steps value hsteps => h _ _ (.call hsteps)

/-- In particular of a given one. -/
theorem Traces.produces {program : Program Op Ans α} (h : program.Traces Q) {value : α}
    (hsteps : Produces program steps value) : Q value steps :=
  traces_iff_produces.mp h _ _ hsteps

/-- A weaker property is traced, too. -/
theorem Traces.mono {Q' : α → List (Exchange Op Ans) → Prop} {program : Program Op Ans α}
    (h : program.Traces Q) (hQ : ∀ value steps, Q value steps → Q' value steps) :
    program.Traces Q' := by
  induction program generalizing Q Q' with
  | ret value => exact hQ value [] h
  | call op next ih => exact fun answer => ih answer (h answer) fun value steps => hQ value _

/-- Two properties are traced together. -/
theorem Traces.and {Q' : α → List (Exchange Op Ans) → Prop} {program : Program Op Ans α}
    (h : program.Traces Q) (h' : program.Traces Q') :
    program.Traces fun value steps => Q value steps ∧ Q' value steps := by
  induction program generalizing Q Q' with
  | ret value => exact ⟨h, h'⟩
  | call op next ih => exact fun answer => ih answer (h answer) (h' answer)

/-- What holds of every value holds whatever the transcript. -/
theorem Yields.traces {P : α → Prop} {program : Program Op Ans α} (h : program.Yields P) :
    program.Traces fun value _ => P value :=
  traces_iff_produces.mpr fun _ _ hsteps => h.produces hsteps

/-- Every step of a transcript performs an allowed operation. -/
theorem Only.traces {P : Op → Prop} {program : Program Op Ans α} (honly : program.Only P) :
    program.Traces fun _ steps => ∀ step ∈ steps, P step.1 :=
  traces_iff_produces.mpr fun _ _ h => honly.produces h

/-- The transcript of a composition is split where its first part ends. -/
@[simp] theorem traces_bind {program : Program Op Ans β} {f : β → Program Op Ans α} :
    (program >>= f).Traces Q ↔
      program.Traces fun value steps => (f value).Traces fun result rest =>
        Q result (steps ++ rest) := by
  induction program generalizing Q with
  | ret value => exact Iff.rfl
  | call op next ih => exact forall_congr' fun answer => ih answer

@[simp] theorem traces_map {program : Program Op Ans β} {f : β → α} :
    (f <$> program).Traces Q ↔ program.Traces fun value steps => Q (f value) steps := by
  induction program generalizing Q with
  | ret value => exact Iff.rfl
  | call op next ih => exact forall_congr' fun answer => ih answer

@[simp] theorem traces_ite {c : Prop} [Decidable c] {yes no : Program Op Ans α} :
    (if c then yes else no).Traces Q ↔ (c → yes.Traces Q) ∧ (¬ c → no.Traces Q) := by
  split <;> simp_all

@[simp] theorem traces_perform {op : Op} {Q : Ans op → List (Exchange Op Ans) → Prop} :
    (perform op : Program Op Ans (Ans op)).Traces Q ↔ ∀ answer, Q answer [⟨op, answer⟩] := Iff.rfl

end Program

/-! ## Transcripts over the register bus -/

namespace Bus

open Program

variable {Ext : Type} {ExtAns : Ext → Type} {α : Type}
  {steps : List (Exchange (BusOp Ext) (BusAns ExtAns))} {value : α}

/-- A reading is answered by a register value. -/
theorem produces_rd_bind {address : Nat} {f : BitVec 32 → BusProgram ExtAns α} :
    Produces (rd address >>= f) steps value ↔
      ∃ reg rest, steps = ⟨.rd address, reg⟩ :: rest ∧ Produces (f reg) rest value :=
  produces_call

/-- A write has one answer. -/
theorem produces_wr_bind {data : BitVec 32} {address : Nat} {f : Unit → BusProgram ExtAns α} :
    Produces (wr data address >>= f) steps value ↔
      ∃ rest, steps = ⟨.wr data address, ()⟩ :: rest ∧ Produces (f ()) rest value :=
  produces_call.trans ⟨fun ⟨(), rest, h⟩ => ⟨rest, h⟩, fun ⟨rest, h⟩ => ⟨(), rest, h⟩⟩

/-- So has a delay. -/
theorem produces_delay_bind {milliseconds : Nat} {f : Unit → BusProgram ExtAns α} :
    Produces (delay milliseconds >>= f) steps value ↔
      ∃ rest, steps = ⟨.delay milliseconds, ()⟩ :: rest ∧ Produces (f ()) rest value :=
  produces_call.trans ⟨fun ⟨(), rest, h⟩ => ⟨rest, h⟩, fun ⟨rest, h⟩ => ⟨(), rest, h⟩⟩

/-- An operation of the extension has answers of its own. -/
theorem produces_extra_bind {op : Ext} {f : ExtAns op → BusProgram ExtAns α} :
    Produces (extra op >>= f) steps value ↔
      ∃ answer rest, steps = ⟨.extra op, answer⟩ :: rest ∧ Produces (f answer) rest value :=
  produces_call

section Traces

variable {Q : α → List (Exchange (BusOp Ext) (BusAns ExtAns)) → Prop}

/-- The continuation is traced for every register value. -/
theorem traces_rd_bind {address : Nat} {f : BitVec 32 → BusProgram ExtAns α} :
    (rd address >>= f).Traces Q ↔
      ∀ reg, (f reg).Traces fun value steps => Q value (⟨.rd address, reg⟩ :: steps) := Iff.rfl

/-- A write goes before the transcript of the rest. -/
theorem traces_wr_bind {data : BitVec 32} {address : Nat} {f : Unit → BusProgram ExtAns α} :
    (wr data address >>= f).Traces Q ↔
      (f ()).Traces fun value steps => Q value (⟨.wr data address, ()⟩ :: steps) :=
  ⟨fun h => h (), fun h _ => h⟩

/-- The continuation is traced for every answer of the extension. -/
theorem traces_extra_bind {op : Ext} {f : ExtAns op → BusProgram ExtAns α} :
    (extra op >>= f).Traces Q ↔
      ∀ answer, (f answer).Traces fun value steps => Q value (⟨.extra op, answer⟩ :: steps) :=
  Iff.rfl

/-- A delay goes before the transcript of the rest. -/
theorem traces_delay_bind {milliseconds : Nat} {f : Unit → BusProgram ExtAns α} :
    (delay milliseconds >>= f).Traces Q ↔
      (f ()).Traces fun value steps => Q value (⟨.delay milliseconds, ()⟩ :: steps) :=
  ⟨fun h => h (), fun h _ => h⟩

end Traces

/-- The values that the register at an address was read with. -/
def readings (address : Nat) (steps : List (Exchange (BusOp Ext) (BusAns ExtAns))) :
    List (BitVec 32) :=
  steps.filterMap fun
    | ⟨.rd read, value⟩ => if read = address then some value else none
    | _ => none

@[simp] theorem readings_rd {address read : Nat} {reg : BitVec 32} :
    readings address (⟨.rd read, reg⟩ :: steps) =
      if read = address then reg :: readings address steps else readings address steps := by
  unfold readings
  by_cases heq : read = address <;> simp [heq]

/-- The readings of a joined transcript come one after the other. -/
theorem readings_append {address : Nat}
    {rest : List (Exchange (BusOp Ext) (BusAns ExtAns))} :
    readings address (steps ++ rest) = readings address steps ++ readings address rest :=
  List.filterMap_append

/-- A register that no operation of a transcript reads. -/
theorem readings_eq_nil {address : Nat} (h : ∀ step ∈ steps, step.1 ≠ .rd address) :
    readings address steps = [] := by
  refine List.filterMap_eq_nil_iff.mpr fun step hstep => ?_
  have hne := h step hstep
  obtain ⟨op, answer⟩ := step
  cases op with
  | rd read => exact if_neg fun heq => hne (congrArg _ heq)
  | _ => rfl

/-- The values that were written to the register at an address. -/
def writings (address : Nat) (steps : List (Exchange (BusOp Ext) (BusAns ExtAns))) :
    List (BitVec 32) :=
  steps.filterMap fun
    | ⟨.wr value written, _⟩ => if written = address then some value else none
    | _ => none

@[simp] theorem writings_nil {address : Nat} :
    writings address ([] : List (Exchange (BusOp Ext) (BusAns ExtAns))) = [] := rfl

@[simp] theorem writings_wr {address written : Nat} {data : BitVec 32} {answer : Unit} :
    writings address (⟨.wr data written, answer⟩ :: steps) =
      if written = address then data :: writings address steps else writings address steps := by
  unfold writings
  by_cases heq : written = address <;> simp [heq]

@[simp] theorem writings_rd {address read : Nat} {reg : BitVec 32} :
    writings address (⟨.rd read, reg⟩ :: steps) = writings address steps := rfl

/-- So do the writings. -/
theorem writings_append {address : Nat}
    {rest : List (Exchange (BusOp Ext) (BusAns ExtAns))} :
    writings address (steps ++ rest) = writings address steps ++ writings address rest :=
  List.filterMap_append

end Bus

end Interaction
