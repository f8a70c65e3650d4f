import Saa7231.Driver.ProbeOutcome

/-!
# What `saa7231_pci_init` acquires before the interrupt

An early failure is undone completely. Without one the two regions, the first mapping and the table
of the MSI-X entries are held, and nothing was released; whether the second mapping is held depends
on its own answer alone (`pci_map_ledger`).
-/

namespace Saa7231

open Interaction Bus Program

/-- The requests up to the table of the MSI-X entries. -/
def early : BusOp DriverOp → Bool
  | .extra (.query (.kzalloc .device)) | .extra (.query (.kzalloc .msixEntries))
  | .extra (.query .pciFindPm) | .extra (.query (.requestMemRegion _))
  | .extra (.query (.ioremap _)) | .extra (.call .pciEnableDevice)
  | .extra (.call (.pciSetConsistentDmaMask _)) => true
  | _ => false

/-- The capabilities that a step reads. -/
def capsRead : DriverStep → Option Caps
  | ⟨.extra .readRevision, revision⟩ => saa7231Caps revision
  | ⟨.extra (.beyondChipCaps _), caps⟩ => some (show Caps from caps)
  | _ => none

/-- BAR 2 is not mapped. -/
def bar2Refused : DriverStep → Bool
  | ⟨.extra (.query (.ioremap .bar2)), answer⟩ => !(show Bool from answer)
  | _ => false

/-! ## The ledger of single steps -/

section Steps

variable {steps : List DriverStep}

@[simp] theorem acquired_command {op : Command} {answer : Unit} :
    driverTenure.acquired (⟨.extra (.command op), answer⟩ :: steps) =
      driverTenure.acquired steps := by
  rw [Tenure.acquired_cons]
  rfl

/-- A call that succeeds acquires its resource. -/
@[simp] theorem acquired_ok {op : Call} :
    driverTenure.acquired (⟨.extra (.call op), (.ok () : Except Nat Unit)⟩ :: steps) =
      op.resource.toList ++ driverTenure.acquired steps :=
  Tenure.acquired_cons _

@[simp] theorem acquired_error {op : Call} {code : Nat} :
    driverTenure.acquired (⟨.extra (.call op), (.error code : Except Nat Unit)⟩ :: steps) =
      driverTenure.acquired steps := by
  rw [Tenure.acquired_cons]
  rfl

/-- A resource that is granted is acquired. -/
@[simp] theorem acquired_true {op : Query} :
    driverTenure.acquired (⟨.extra (.query op), true⟩ :: steps) =
      op.resource.toList ++ driverTenure.acquired steps :=
  Tenure.acquired_cons _

/-- One that is refused is not. -/
@[simp] theorem acquired_false {op : Query} :
    driverTenure.acquired (⟨.extra (.query op), false⟩ :: steps) =
      driverTenure.acquired steps := by
  rw [Tenure.acquired_cons]
  rfl

/-- Resources are released by commands. -/
@[simp] theorem releases_command {op : Command} {answer : Unit} :
    driverTenure.releases (⟨.extra (.command op), answer⟩ :: steps) =
      op.resource.toList ++ driverTenure.releases steps :=
  Tenure.releases_cons _

@[simp] theorem releases_call {op : Call} {answer : Except Nat Unit} :
    driverTenure.releases (⟨.extra (.call op), answer⟩ :: steps) =
      driverTenure.releases steps := by
  rw [Tenure.releases_cons]
  rfl

@[simp] theorem releases_query {op : Query} {answer : Bool} :
    driverTenure.releases (⟨.extra (.query op), answer⟩ :: steps) =
      driverTenure.releases steps := by
  rw [Tenure.releases_cons]
  rfl

end Steps

namespace Driver

/-! ## Single operations and a continuation -/

section Operations

variable {α : Type} {Q : α → List DriverStep → Prop}

/-- A command stands at the front of every transcript. -/
theorem traces_command_bind {op : Command} {f : Unit → DriverProgram α} :
    (command op >>= f).Traces Q ↔
      (f ()).Traces fun value steps => Q value (⟨.extra (.command op), ()⟩ :: steps) :=
  ⟨fun h => h (), fun h _ => h⟩

/-- A call is answered by an error or by success. -/
theorem traces_call_bind {op : Call} {f : Except Nat Unit → DriverProgram α} :
    (call op >>= f).Traces Q ↔
      (∀ code, (f (.error code)).Traces fun value steps => Q value
        (⟨.extra (.call op), (.error code : Except Nat Unit)⟩ :: steps)) ∧
      (f (.ok ())).Traces fun value steps => Q value
        (⟨.extra (.call op), (.ok () : Except Nat Unit)⟩ :: steps) := by
  constructor
  · exact fun h => ⟨fun code => h (.error code), h (.ok ())⟩
  · rintro ⟨herror, hok⟩ (code | ⟨⟩)
    · exact herror code
    · exact hok

/-- A request is granted or refused. -/
theorem traces_query_bind {op : Query} {f : Bool → DriverProgram α} :
    (query op >>= f).Traces Q ↔
      ((f false).Traces fun value steps => Q value (⟨.extra (.query op), false⟩ :: steps)) ∧
      (f true).Traces fun value steps => Q value (⟨.extra (.query op), true⟩ :: steps) := by
  refine ⟨fun h => ⟨h false, h true⟩, fun h answer => ?_⟩
  cases answer
  exacts [h.1, h.2]

/-- A request alone. -/
theorem traces_query {op : Query} {Q : Bool → List DriverStep → Prop} :
    (query op).Traces Q ↔
      Q false [⟨.extra (.query op), false⟩] ∧ Q true [⟨.extra (.query op), true⟩] := by
  refine ⟨fun h => ⟨h false, h true⟩, fun h answer => ?_⟩
  cases answer
  exacts [h.1, h.2]

/-- A command alone. -/
theorem traces_command {op : Command} {Q : Unit → List DriverStep → Prop} :
    (command op).Traces Q ↔ Q () [⟨.extra (.command op), ()⟩] :=
  ⟨fun h => h (), fun h _ => h⟩

end Operations

/-! ## The parts of `saa7231_pci_init` -/

/-- Steps that neither acquire nor release, read no capabilities and no register of the interrupt
controller, and do not map BAR 2. -/
structure Neutral (steps : List DriverStep) : Prop where
  acquired : driverTenure.acquired steps = []
  releases : driverTenure.releases steps = []
  caps : ∀ step ∈ steps, capsRead step = none
  bar2 : ∀ step ∈ steps, ¬ bar2Refused step = true
  unread : ∀ step ∈ steps, Unread step.1

/-- No steps are neutral. -/
theorem neutral_nil : Neutral [] :=
  ⟨rfl, rfl, fun _ => nofun, fun _ => nofun, fun _ => nofun⟩

/-- A call that acquires nothing. -/
theorem Neutral.call {op : Call} (hop : op.resource = none) {answer : Except Nat Unit}
    {steps : List DriverStep} (h : Neutral steps) :
    Neutral (⟨.extra (.call op), answer⟩ :: steps) where
  acquired := by
    rcases answer with code | ⟨⟩
    · rw [acquired_error, h.acquired]
    · rw [acquired_ok, h.acquired, hop]
      rfl
  releases := by simp [h.releases]
  caps := List.forall_mem_cons.mpr ⟨rfl, h.caps⟩
  bar2 := List.forall_mem_cons.mpr ⟨nofun, h.bar2⟩
  unread := List.forall_mem_cons.mpr ⟨unread_extra _, h.unread⟩

/-- The masks fail exactly if the consistent one is refused, which probe notices. -/
theorem set_dma_masks_traces : setDmaMasks.Traces fun result steps => Neutral steps ∧
    match result with
    | .ok () => ∀ step ∈ steps, ¬ noticed step = true
    | .error _ => ∃ step ∈ steps, early step.1 = true ∧ noticed step = true := by
  -- The mask of the consistent memory is set in both cases, after a first call that is neutral.
  have hsecond : ∀ bits (first : DriverStep),
      (∀ {steps}, Neutral steps → Neutral (first :: steps)) → ¬ noticed first = true →
      (call (.pciSetConsistentDmaMask bits)).Traces fun result steps => Neutral (first :: steps) ∧
        match result with
        | .ok () => ∀ step ∈ first :: steps, ¬ noticed step = true
        | .error _ => ∃ step ∈ first :: steps, early step.1 = true ∧ noticed step = true := by
    rintro bits first hfirst hgranted (code | ⟨⟩)
    · exact ⟨hfirst (neutral_nil.call rfl), _, List.mem_cons_of_mem _ List.mem_cons_self, rfl, rfl⟩
    · exact ⟨hfirst (neutral_nil.call rfl),
        List.forall_mem_cons.mpr ⟨hgranted, List.forall_mem_cons.mpr ⟨nofun, fun _ => nofun⟩⟩⟩
  refine traces_call_bind.mpr ⟨fun code => ?_, ?_⟩
  · exact hsecond 32 _ (fun h => h.call rfl) nofun
  · exact hsecond 64 _ (fun h => h.call rfl) nofun

/-- Steps that read the capabilities and do nothing else. -/
structure Reads (caps : Caps) (steps : List DriverStep) : Prop where
  acquired : driverTenure.acquired steps = []
  releases : driverTenure.releases steps = []
  caps : ∀ other, (∃ step ∈ steps, capsRead step = some other) ↔ other = caps
  granted : ∀ step ∈ steps, ¬ noticed step = true
  bar2 : ∀ step ∈ steps, ¬ bar2Refused step = true
  unread : ∀ step ∈ steps, Unread step.1

/-- The capabilities come from the table, or from behind its end. -/
theorem read_caps_traces : readCaps.Traces fun caps steps => Reads caps steps := by
  refine traces_extra_bind.mpr fun revision => ?_
  cases hcaps : saa7231Caps revision with
  | some caps =>
      refine ⟨rfl, rfl, fun other => ?_, ?_, ?_, ?_⟩
      · simp only [List.mem_singleton, exists_eq_left]
        exact ⟨fun h => Option.some.inj (h.symm.trans hcaps), fun h => h ▸ hcaps⟩
      · simp [noticed]
      · simp [bar2Refused]
      · simp [unread_extra]
  | none =>
      show (beyondChipCaps revision).Traces _
      intro caps
      refine ⟨rfl, rfl, fun other => ?_, ?_, ?_, ?_⟩
      · simp only [List.mem_cons, List.not_mem_nil, or_false, exists_eq_or_imp, exists_eq_left]
        show (saa7231Caps revision = some other ∨ some (show Caps from caps) = some other) ↔ _
        rw [hcaps]
        simp only [reduceCtorEq, false_or]
        exact ⟨fun h => (Option.some.inj h).symm, fun h => congrArg some h.symm⟩
      · simp [noticed]
      · simp [bar2Refused]
      · simp [unread_extra]

/-- The state of the ledger once everything is mapped. -/
structure Mapped (dev dev' : Dev) (steps : List DriverStep) : Prop where
  granted : ∀ step ∈ steps, ¬ noticed step = true
  releases : driverTenure.releases steps = []
  bar0 : .mapping .bar0 ∈ driverTenure.acquired steps
  bar2 : .mapping .bar2 ∈ driverTenure.acquired steps ↔ ∀ step ∈ steps, ¬ bar2Refused step = true
  table : .memory .msixEntries ∈ driverTenure.acquired steps
  caps : ∀ caps, (∃ step ∈ steps, capsRead step = some caps) ↔ caps = dev'.caps
  intType : dev'.intType = dev.intType
  unread : ∀ step ∈ steps, Unread step.1

/-- An early failure leaves nothing behind. -/
structure Undone (ret : Int) (steps : List DriverStep) : Prop where
  error : ret < 0
  failure : ∃ step ∈ steps, early step.1 = true ∧ noticed step = true
  balanced : driverTenure.Balanced steps

/-- The steps of `pciMap` when it succeeds. -/
def mappedSteps (masks readings : List DriverStep) (mmio2 : Bool) : List DriverStep :=
  ⟨.extra (.command (.mutexInit .dev)), ()⟩ ::
    ⟨.extra (.call .pciEnableDevice), (.ok () : Except Nat Unit)⟩ :: (masks ++
      ⟨.extra (.command .pciSetMaster), ()⟩ :: ⟨.extra (.query .pciFindPm), true⟩ ::
        ⟨.extra (.query (.requestMemRegion .bar0)), true⟩ ::
          ⟨.extra (.query (.ioremap .bar0)), true⟩ ::
            ⟨.extra (.query (.requestMemRegion .bar2)), true⟩ ::
              ⟨.extra (.query (.ioremap .bar2)), mmio2⟩ ::
                (readings ++ [⟨.extra (.query (.kzalloc .msixEntries)), true⟩]))

/-- The steps with which the mappings succeed, the second mapping granted or not. -/
theorem mapped_steps {dev dev' : Dev} {masks readings : List DriverStep} (mmio2 : Bool)
    (hneutral : Neutral masks) (hmasks : ∀ step ∈ masks, ¬ noticed step = true)
    (hreads : Reads dev'.caps readings) (hintType : dev'.intType = dev.intType) :
    Mapped dev dev' (mappedSteps masks readings mmio2) where
  granted := by
    simp only [mappedSteps, List.forall_mem_cons, List.forall_mem_append]
    exact ⟨nofun, nofun, hmasks, nofun, nofun, nofun, nofun, nofun, nofun, hreads.granted, nofun,
      fun _ => nofun⟩
  releases := by
    simp [mappedSteps, Command.resource, hneutral.releases, hreads.releases]
  bar0 := by simp [mappedSteps, Call.resource, Query.resource]
  bar2 := by
    have hothers : ¬ bar2Refused ⟨.extra (.query (.ioremap .bar2)), mmio2⟩ = true ↔
        ∀ step ∈ mappedSteps masks readings mmio2, ¬ bar2Refused step = true := by
      simp only [mappedSteps, List.forall_mem_cons, List.forall_mem_append]
      exact ⟨fun h => ⟨nofun, nofun, hneutral.bar2, nofun, nofun, nofun, nofun, nofun, h,
        hreads.bar2, nofun, fun _ => nofun⟩, fun h => h.2.2.2.2.2.2.2.2.1⟩
    rw [← hothers]
    cases mmio2 with
    | false => simp [mappedSteps, Call.resource, Query.resource, bar2Refused, hneutral.acquired,
        hreads.acquired]
    | true => simp [mappedSteps, Call.resource, Query.resource, bar2Refused]
  table := by
    cases mmio2 <;> simp [mappedSteps, Call.resource, Query.resource]
  caps caps := by
    have hothers : ∀ step ∈ mappedSteps masks readings mmio2,
        step ∈ readings ∨ capsRead step = none := by
      simp only [mappedSteps, List.forall_mem_cons, List.forall_mem_append]
      exact ⟨Or.inr rfl, Or.inr rfl, fun _ h => Or.inr (hneutral.caps _ h), Or.inr rfl, Or.inr rfl,
        Or.inr rfl, Or.inr rfl, Or.inr rfl, Or.inr rfl, fun _ h => Or.inl h, Or.inr rfl,
        fun _ => nofun⟩
    rw [← hreads.caps]
    constructor
    · rintro ⟨step, hstep, hcaps⟩
      rcases hothers step hstep with hread | hnone
      · exact ⟨step, hread, hcaps⟩
      · rw [hnone] at hcaps
        cases hcaps
    · rintro ⟨step, hstep, hcaps⟩
      exact ⟨step, by simp [mappedSteps, hstep], hcaps⟩
  intType := hintType
  unread := by
    simp only [mappedSteps, List.forall_mem_cons, List.forall_mem_append]
    exact ⟨unread_extra _, unread_extra _, hneutral.unread, unread_extra _, unread_extra _,
      unread_extra _, unread_extra _, unread_extra _, unread_extra _, hreads.unread,
      unread_extra _, fun _ => nofun⟩

/-- The part of `saa7231_pci_init` before the interrupt either fails and releases everything, or
holds the device, the mappings and the table. -/
theorem pci_map_ledger (dev : Dev) : (pciMap dev).Traces fun result steps =>
    match result with
    | .error err => Undone err steps
    | .ok dev' => Mapped dev dev' steps := by
  unfold pciMap
  simp only [pciFail5, pciFail4, pciFail3, pciFail2, pciFail1, pciFail0, traces_command_bind,
    traces_call_bind]
  refine ⟨fun code => ?_, ?_⟩
  · rw [traces_pure]
    exact ⟨by decide, ⟨⟨.extra (.call .pciEnableDevice), .error code⟩, by simp, rfl, rfl⟩,
      Tenure.balanced_of_reverse (by simp [Command.resource])⟩
  rw [traces_bind]
  refine set_dma_masks_traces.mono ?_
  rintro (code | ⟨⟩) masks ⟨hneutral, hmasks⟩
  · obtain ⟨step, hstep, hfailed⟩ := hmasks
    simp only [traces_bind, traces_command, traces_pure]
    refine ⟨by decide, ⟨step, by simp [hstep], hfailed⟩, Tenure.balanced_of_reverse ?_⟩
    simp [Command.resource, Call.resource, hneutral.acquired, hneutral.releases]
  simp only [traces_command_bind, traces_query_bind, Bool.not_false, Bool.not_true, if_true,
    Bool.false_eq_true, if_false]
  -- Each error path undoes what came before it, the last first.
  refine ⟨?_, ?_, ?_, ?_, ?_, ?_⟩ <;> simp only [traces_bind, traces_command, traces_pure]
  · refine ⟨by decide, ⟨⟨.extra (.query .pciFindPm), false⟩, by simp, rfl, rfl⟩,
      Tenure.balanced_of_reverse ?_⟩
    simp [Command.resource, Call.resource, hneutral.acquired, hneutral.releases]
  · refine ⟨by decide, ⟨⟨.extra (.query (.requestMemRegion .bar0)), false⟩, by simp, rfl, rfl⟩,
      Tenure.balanced_of_reverse ?_⟩
    simp [Command.resource, Call.resource, Query.resource, hneutral.acquired, hneutral.releases]
  · refine ⟨by decide, ⟨⟨.extra (.query (.ioremap .bar0)), false⟩, by simp, rfl, rfl⟩,
      Tenure.balanced_of_reverse ?_⟩
    simp [Command.resource, Call.resource, Query.resource, hneutral.acquired, hneutral.releases]
  · refine ⟨by decide, ⟨⟨.extra (.query (.requestMemRegion .bar2)), false⟩, by simp, rfl, rfl⟩,
      Tenure.balanced_of_reverse ?_⟩
    simp [Command.resource, Call.resource, Query.resource, hneutral.acquired, hneutral.releases]
  · refine read_caps_traces.mono fun caps readings hreads => traces_query.mpr ⟨?_, ?_⟩
    · simp only [Bool.not_false, if_true, traces_bind, traces_command, traces_pure]
      refine ⟨by decide, ⟨⟨.extra (.query (.kzalloc .msixEntries)), false⟩, by simp, rfl, rfl⟩,
        Tenure.balanced_of_reverse ?_⟩
      simp [Command.resource, Call.resource, Query.resource, hneutral.acquired,
        hneutral.releases, hreads.acquired, hreads.releases]
    · exact mapped_steps false hneutral hmasks hreads rfl
  · refine read_caps_traces.mono fun caps readings hreads => traces_query.mpr ⟨?_, ?_⟩
    · simp only [Bool.not_false, if_true, traces_bind, traces_command, traces_pure]
      refine ⟨by decide, ⟨⟨.extra (.query (.kzalloc .msixEntries)), false⟩, by simp, rfl, rfl⟩,
        Tenure.balanced_of_reverse ?_⟩
      simp [Command.resource, Call.resource, Query.resource, hneutral.acquired,
        hneutral.releases, hreads.acquired, hreads.releases]
    · exact mapped_steps true hneutral hmasks hreads rfl

end Driver

end Saa7231
