import Saa7231.Driver.ResetCheck

/-!
# When probe succeeds

`saa7231_pci_probe` returns `0` exactly if no step failed, the interrupt controller passed its
check, and there are at most two adapters (`probe_returns_zero_iff`).
-/

namespace Saa7231.Driver

open Interaction Bus Program

variable {config : DriverConfig} {steps : List DriverStep} {dev dev' : Dev} {ret : Int}

/-! ## Transcripts -/

/-- A request is answered. -/
theorem produces_query_bind {α : Type} {op : Query} {f : Bool → DriverProgram α} {value : α} :
    Produces (query op >>= f) steps value ↔
      ∃ (answer : Bool) (rest : List DriverStep),
        steps = ⟨.extra (.query op), answer⟩ :: rest ∧ Produces (f answer) rest value :=
  produces_extra_bind

/-- A command is done. -/
theorem produces_command_bind {α : Type} {op : Command} {f : Unit → DriverProgram α} {value : α} :
    Produces (command op >>= f) steps value ↔
      ∃ rest, steps = ⟨.extra (.command op), ()⟩ :: rest ∧ Produces (f ()) rest value :=
  produces_extra_bind.trans ⟨fun ⟨(), rest, h⟩ => ⟨rest, h⟩, fun ⟨rest, h⟩ => ⟨(), rest, h⟩⟩

/-- A step that fails, and the steps after it. -/
theorem exists_noticed_cons {step : DriverStep} {rest : List DriverStep}
    (h : noticed step = true) : ∃ found ∈ step :: rest, noticed found = true :=
  ⟨step, List.mem_cons_self, h⟩

/-- An error path passes its error on. -/
theorem produces_unwound {undo : DriverProgram Unit} {err : Int}
    (h : Produces (undo >>= fun _ => pure (err, dev)) steps (ret, dev')) : ret = err := by
  obtain ⟨first, _, rest, rfl, -, hret⟩ := produces_bind.mp h
  exact (Prod.mk.inj (produces_pure.mp hret).2).1

/-! ## The single units -/

/-- Only readings are read. -/
theorem unread_extra (op : DriverOp) : Unread (.extra op) := fun _ _ => ⟨nofun, nofun⟩

/-- A reading outside the interrupt controller is none of its own. -/
theorem unread_rd {address : Nat} (h : address < Mod.msi ∨ Mod.msi + 0x1000 ≤ address) :
    Unread (.rd address : BusOp DriverOp) := by
  intro i hi
  simp only [ne_eq, BusOp.rd.injEq, msiIntEna, msiIntStatus]
  omega

/-- The request of the line does not read the controller. -/
theorem pci_interrupt_unread (dev : Dev) : (pciInterrupt dev).Only Unread := by
  have hirq : (requestIrq dev.intType).Only Unread := by
    simp [requestIrq, unread_extra]
  have hfail : (pciFail5 dev.mmio1 dev.mmio2).Only Unread := by
    simp [pciFail5, pciFail4, pciFail3, pciFail2, pciFail1, pciFail0, unread_extra]
  refine Only.bind hirq fun irq => ?_
  rw [only_ite]
  refine ⟨fun _ => Only.bind hfail fun _ => trivial, fun _ => ?_⟩
  simp only [command_bind_only, unread_extra, true_and, getVersion]
  refine ⟨unread_rd ?_, fun _ => ⟨unread_rd ?_, fun _ => trivial⟩⟩ <;> decide

/-- Neither do the clocks. -/
theorem cgu_init_unread (config : DriverConfig) (dev : Dev) : (cguInit config dev).Only Unread := by
  have hbug : bug.Only Unread := ⟨unread_extra _, fun _ => trivial⟩
  have hprogram : (cguProgram bug config.verbose config.rootClk).Only Unread :=
    only_cgu_program (fun _ => hbug) (fun _ _ _ _ => ⟨nofun, nofun⟩) (fun _ _ _ => ⟨nofun, nofun⟩)
      (fun address haddress => unread_rd (by revert address; decide)) _
  simp [cguInit, kzalloc, unread_extra, hprogram]

/-- The controller's code requests nothing of the driver. -/
theorem lift_msi_safe {α : Type} (program : MsiProgram DvbHandler α) :
    (liftMsi program).Only Safe :=
  Only.relabel (P := fun _ => True) (Only.of_forall fun _ => trivial)
    fun op _ => by cases op <;> exact fun _ => nofun

/-- What its transcripts say of the reset they say in the driver. -/
theorem lift_msi_checked {α : Type} {program : MsiProgram DvbHandler α} {value : α}
    (error : α → Int) (htraces : program.Traces fun value steps => ResetChecked (error value) steps)
    (h : Produces (liftMsi program) steps value) : ResetChecked (error value) steps := by
  obtain ⟨steps', hsteps', hsame⟩ := produces_lift h
  have hword : ∀ {i : Nat} {verdict : Bool}, WordChecked i verdict steps' →
      WordChecked i verdict steps := by
    rintro i verdict ⟨first, second, first', second', hreadings, hverdict⟩
    refine ⟨first, second, first', second', ?_, hverdict⟩
    rw [← hreadings]
    exact Prod.ext (hsame _) (hsame _)
  rcases htraces.produces hsteps' with ⟨hret, hpassed⟩ | ⟨hret, i, hi, hfailed⟩
  · exact Or.inl ⟨hret, fun i hi => hword (hpassed i hi)⟩
  · exact Or.inr ⟨hret, i, hi, hword hfailed⟩

/-- The initialisation of the interrupt controller fails if an allocation does, or on its check. -/
theorem msi_init_checks (h : Produces (msiInit dev) steps (ret, dev')) :
    ((∃ step ∈ steps, noticed step = true) ∧ ret < 0) ∨
      ((∀ step ∈ steps, ¬ noticed step = true) ∧ ResetChecked ret steps ∧ dev'.caps = dev.caps) := by
  obtain ⟨granted, afterTable, rfl, htable⟩ := produces_query_bind.mp h
  cases granted with
  | false =>
      obtain ⟨rfl, heq⟩ := produces_pure.mp htable
      cases heq
      exact Or.inl ⟨exists_noticed_cons rfl, by decide⟩
  | true =>
  obtain ⟨granted, afterEvents, rfl, hevents⟩ := produces_query_bind.mp htable
  cases granted with
  | false =>
      obtain ⟨rfl, heq⟩ := produces_pure.mp hevents
      cases heq
      exact Or.inl ⟨⟨_, List.mem_cons_of_mem _ List.mem_cons_self, rfl⟩, by decide⟩
  | true =>
  simp only [Bool.not_true, Bool.false_eq_true, if_false, assign] at hevents
  obtain ⟨assigned, rfl, hassigned⟩ := produces_command_bind.mp hevents
  obtain ⟨reset, ⟨ret', events⟩, tail, rfl, hreset, hret⟩ := produces_bind.mp hassigned
  obtain ⟨rfl, heq⟩ := produces_pure.mp hret
  cases heq
  have hchecked := lift_msi_checked Prod.fst (msi_reset_checks dev.events) hreset
  have hsafe := (lift_msi_safe _).produces hreset
  refine Or.inr ⟨?_, ?_, rfl⟩
  · simp only [List.append_nil, List.forall_mem_cons]
    exact ⟨by simp [noticed], by simp [noticed], by simp [noticed],
      fun step hstep => hsafe step hstep step.2⟩
  · rw [List.append_nil]
    exact ((hchecked.cons (unread_extra _)).cons (unread_extra _)).cons (unread_extra _)

/-! ## The readings of a whole transcript -/

/-- The reset passes if every word does. -/
theorem reset_passed_iff : resetPassed steps = true ↔
    ∀ i < saa7231MsiLoops, wordPassed (wordReadings i steps) = true := by
  simp [resetPassed]

/-- A word passes exactly as its check said. -/
theorem word_passed_of_checked {i : Nat} {verdict : Bool} {rest : List DriverStep}
    (h : WordChecked i verdict steps) : wordPassed (wordReadings i (steps ++ rest)) = !verdict := by
  obtain ⟨first, second, first', second', hreadings, rfl⟩ := h
  rw [word_readings_append, hreadings]
  rfl

/-- A check that was made decides what the whole transcript shows. -/
theorem reset_checked_iff {rest : List DriverStep} (h : ResetChecked ret steps) :
    resetPassed (steps ++ rest) = true ↔ ret = 0 := by
  rw [reset_passed_iff]
  rcases h with ⟨rfl, hpassed⟩ | ⟨hret, i, hi, hfailed⟩
  · exact ⟨fun _ => rfl, fun _ i hi => word_passed_of_checked (hpassed i hi)⟩
  · constructor
    · intro h
      have hword := h i hi
      rw [word_passed_of_checked hfailed] at hword
      cases hword
    · exact fun hzero => absurd hret (by simp [hzero])

/-- Steps that do not read the controller do not matter. -/
theorem reset_passed_skip {before : List DriverStep} (h : ∀ step ∈ before, Unread step.1) :
    resetPassed (before ++ steps) = resetPassed steps := by
  rw [Bool.eq_iff_iff, reset_passed_iff, reset_passed_iff]
  exact forall₂_congr fun i hi => by rw [word_readings_skip h hi]

/-! ## The units behind the PCI device -/

/-- This part of probe succeeds exactly if nothing fails and there are at most two adapters. -/
theorem probe_inputs_returns (h : Produces (probeInputs config dev) steps (ret, dev')) :
    ret = 0 ↔ (∀ step ∈ steps, ¬ noticed step = true) ∧ (config.adapters dev.caps).toNat ≤ 2 := by
  by_cases hadapters : (config.adapters dev.caps).toNat ≤ 2
  · rcases (reports_probe_inputs config dev hadapters).produces h with
      ⟨⟨step, hstep, hfailed⟩, hret⟩ | ⟨hgranted, hret, -⟩
    · exact ⟨fun hzero => absurd hret (by simp_all), fun hall => absurd hfailed (hall.1 step hstep)⟩
    · exact ⟨fun _ => ⟨hgranted, hadapters⟩, fun _ => hret⟩
  · have hret : ret ≠ 0 := (probe_inputs_fails config dev (Nat.lt_of_not_le hadapters)).produces h
    exact ⟨fun hzero => absurd hzero hret, fun hall => absurd hall.2 hadapters⟩

/-- The units behind the PCI device come up exactly if nothing fails, the interrupt controller
passes its check, and there is a stream for every adapter. -/
theorem probe_units_returns (h : Produces (probeUnits config dev) steps (ret, dev')) :
    ret = 0 ↔ (∀ step ∈ steps, ¬ noticed step = true) ∧ resetPassed steps = true ∧
      (config.adapters dev.caps).toNat ≤ 2 := by
  obtain ⟨clocks, ⟨err, clocked⟩, afterClocks, rfl, hclocks, hafter⟩ := produces_bind.mp h
  have hskip := (cgu_init_unread config dev).produces hclocks
  rw [reset_passed_skip hskip]
  simp only [List.forall_mem_append]
  dsimp only at hafter
  rcases (reports_cgu_init config dev).produces hclocks with
    ⟨⟨step, hstep, hfailed⟩, herr⟩ | ⟨hgranted, hzero, hcaps⟩
  · have hne : err ≠ 0 := herr.ne
    rw [if_pos hne] at hafter
    have hret := produces_unwound hafter
    exact ⟨fun hzero => absurd (hret ▸ hzero) hne,
      fun hall => absurd hfailed (hall.1.1 step hstep)⟩
  · obtain rfl : err = 0 := hzero
    rw [if_neg (not_not_intro rfl)] at hafter
    obtain ⟨armed, ⟨err, ready⟩, afterMsi, rfl, harmed, hafter⟩ := produces_bind.mp hafter
    dsimp only at hafter
    simp only [List.forall_mem_append]
    rcases msi_init_checks harmed with
      ⟨⟨step, hstep, hfailed⟩, herr⟩ | ⟨hallocated, hchecked, hsame⟩
    · have hne : err ≠ 0 := herr.ne
      rw [if_pos hne] at hafter
      have hret := produces_unwound hafter
      exact ⟨fun hzero => absurd (hret ▸ hzero) hne,
        fun hall => absurd hfailed (hall.1.2.1 step hstep)⟩
    · rw [reset_checked_iff hchecked]
      by_cases hpassed : err = 0
      · subst hpassed
        rw [if_neg (not_not_intro rfl)] at hafter
        have hcaps' : ready.caps = dev.caps := hsame.trans hcaps
        rw [probe_inputs_returns hafter, hcaps']
        exact ⟨fun hall => ⟨⟨hgranted, hallocated, hall.1⟩, rfl, hall.2⟩,
          fun hall => ⟨hall.1.2.2, hall.2.2⟩⟩
      · rw [if_pos hpassed] at hafter
        have hret := produces_unwound hafter
        exact ⟨fun hzero => absurd (hret ▸ hzero) hpassed, fun hall => absurd hall.2.1 hpassed⟩

end Saa7231.Driver
