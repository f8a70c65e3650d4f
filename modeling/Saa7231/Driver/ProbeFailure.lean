import Saa7231.Driver.Gains
import Saa7231.Driver.ProbeFaults

/-!
# Probe is all or nothing up to the table of the MSI-X entries

`saa7231_pci_probe` frees everything when one of the requests up to the table of the MSI-X entries
fails. Behind that the table stays on every error path, so that probe is all or nothing only if it
comes through; and then both BARs are mapped and the interrupt is installed only if the second
mapping, which nobody tests, succeeded and the type of the interrupt is a known one. A probe that
crashes does neither (`probe_all_or_nothing_iff`).
-/

namespace Saa7231

open Interaction Bus Program

/-- The device is up: both BARs are mapped, the interrupt is installed, and the I2C masters and the
adapters are registered. -/
structure Up (config : DriverConfig) (steps : List DriverStep) : Prop where
  bars : ∀ bar, driverTenure.Holds steps (.mapping bar)
  irq : driverTenure.Holds steps .irq
  masters : ∀ i < saa7231I2cAdapters, driverTenure.Holds steps (.i2cAdapter i)
  adapters : ∀ step ∈ steps, ∀ caps, capsRead step = some caps →
    ∀ i < (config.adapters caps).toNat, ∀ resource ∈ Driver.adapterResources i,
      driverTenure.Holds steps resource

/-- Probe comes to its end, and returns `0` with the device up, or a negative error with everything
given back. -/
def AllOrNothing (config : DriverConfig) (steps : List DriverStep) (ret : Int) : Prop :=
  (∀ step ∈ steps, ¬ crashes step = true) ∧ (ret = 0 → Up config steps) ∧
    (ret ≠ 0 → ret < 0 ∧ driverTenure.Balanced steps)

/-- Nothing fails but what probe may do without, the mappings for the device pass the checks and fit
into the page tables, the root clock has PLL tables, the second mapping succeeds, the type of the
interrupt is a known one, the interrupt controller passes its check, and there are at most two
adapters. -/
structure ProbeComplete (config : DriverConfig) (steps : List DriverStep) : Prop where
  granted : ∀ step ∈ steps, ¬ failed step = true
  sound : ∀ step ∈ steps, ¬ faulty step = true
  rootClk : config.rootClk ≠ .clkRootCustom
  bar2 : ∀ step ∈ steps, ¬ bar2Refused step = true
  intType : Driver.knownIntType (config.intType.truncate 8) = true
  reset : resetPassed steps = true
  adapters : ∀ step ∈ steps, ∀ caps, capsRead step = some caps → (config.adapters caps).toNat ≤ 2

/-- The plain environment, in which the interrupt line is busy. -/
def DriverEnvironment.busyLine : DriverEnvironment :=
  { DriverEnvironment.plain with call := fun op => if op = .requestIrq then .error 15 else .ok () }

namespace Driver

variable {config : DriverConfig} {steps : List DriverStep} {dev dev' : Dev} {ret : Int}

/-- A complete probe has no failure that probe takes for an error. -/
theorem complete_unnoticed (h : ProbeComplete config steps) : ∀ step ∈ steps, ¬ noticed step = true :=
  fun step hstep hnoticed => h.granted step hstep (Bool.or_eq_true_iff.mpr (Or.inl hnoticed))

/-- `saa7231_pci_probe` from the request of the interrupt on. -/
def probeMapped (config : DriverConfig) (dev : Dev) : DriverProgram (Int × Dev) := do
  let (err, dev) ← pciInterrupt dev
  if err ≠ 0 then
    probeFail1
    return (err, dev)
  probeUnits config dev

/-! ## The steps behind the mappings -/

section Mapped

/-- The roles behind the mappings. -/
structure Behind (role : Role) : Prop where
  mapping : role ≠ .request .pci
  table : role ≠ .request .msix
  kept : role ≠ .release .msix

/-- What probe does behind the mappings. -/
theorem only_probe_mapped (config : DriverConfig) (dev : Dev) :
    (probeMapped config dev).Only (Within Behind) := by
  have hlater : ∀ role, Later role → Behind role := fun _ h => ⟨h.mapping, h.table, h.kept⟩
  refine Only.bind (only_pci_interrupt ⟨nofun, nofun, nofun⟩ (later_release hlater nofun)
    (later_update hlater _) dev) fun interrupt => ?_
  rw [only_ite]
  refine ⟨fun _ => ?_, fun _ => only_probe_units hlater config interrupt.2⟩
  simp [probeFail1, kfree, later_release hlater]

/-- No capabilities are read behind the mappings, and BAR 2 is not mapped again. -/
theorem not_read_behind {step : DriverStep} (h : Within Behind step.1) :
    capsRead step = none ∧ ¬ bar2Refused step = true := by
  obtain ⟨op, answer⟩ := step
  cases op with
  | rd | wr | delay => exact ⟨rfl, nofun⟩
  | extra op =>
      cases op with
      | readRevision | beyondChipCaps => exact absurd rfl (h _ rfl).mapping
      | query op =>
          have hrole := (within_query.mp h).mapping
          refine ⟨rfl, ?_⟩
          cases op <;> first | exact absurd rfl hrole | exact nofun
      | _ => exact ⟨rfl, nofun⟩

variable (h : Produces (probeMapped config dev) steps (ret, dev'))
include h

/-- All steps behind the mappings have such roles. -/
theorem behind_steps : ∀ step ∈ steps, Within Behind step.1 :=
  (only_probe_mapped config dev).produces h

/-- None of them is an early request. -/
theorem behind_not_early : ¬ ∃ step ∈ steps, early step.1 = true ∧ noticed step = true := by
  rintro ⟨step, hstep, hearly, -⟩
  exact not_early ((behind_steps h step hstep).mono fun _ hrole => ⟨hrole.mapping, hrole.table⟩)
    hearly

/-- None frees the table of the MSI-X entries. -/
theorem behind_spares_table : .memory .msixEntries ∉ driverTenure.releases steps :=
  not_released rfl fun step hstep => (behind_steps h step hstep).mono fun _ hrole => hrole.kept

/-- When probe returns `0` behind the mappings. -/
theorem probe_mapped_returns : ret = 0 ↔ (∀ step ∈ steps, ¬ noticed step = true) ∧
    resetPassed steps = true ∧ (config.adapters dev.caps).toNat ≤ 2 := by
  obtain ⟨first, ⟨err, installed⟩, rest, rfl, hfirst, hafter⟩ := produces_bind.mp h
  rw [reset_passed_skip ((pci_interrupt_unread dev).produces hfirst)]
  simp only [List.forall_mem_append]
  dsimp only at hafter
  rcases (reports_pci_interrupt dev).produces hfirst with
    ⟨⟨step, hstep, hfailed⟩, herr⟩ | ⟨hgranted, hzero, hcaps⟩
  · have hne : err ≠ 0 := herr.ne
    rw [if_pos hne] at hafter
    have hret := produces_unwound hafter
    exact ⟨fun hzero => absurd (hret ▸ hzero) hne,
      fun hall => absurd hfailed (hall.1.1 step hstep)⟩
  · obtain rfl : err = 0 := hzero
    rw [if_neg (not_not_intro rfl)] at hafter
    rw [probe_units_returns hafter, show installed.caps = dev.caps from hcaps]
    exact ⟨fun hall => ⟨⟨hgranted, hall.1⟩, hall.2⟩, fun hall => ⟨hall.1.2, hall.2⟩⟩

/-- What is held when probe returns `0`. -/
theorem probe_mapped_gains (hzero : ret = 0) : Registered config dev.caps steps ∧
    (.irq ∈ driverTenure.acquired steps ↔ knownIntType dev.intType = true) := by
  obtain ⟨first, ⟨err, installed⟩, rest, rfl, hfirst, hafter⟩ := produces_bind.mp h
  dsimp only at hafter
  by_cases herr : err = 0
  · subst herr
    rw [if_neg (not_not_intro rfl)] at hafter
    obtain ⟨hkept, hirq⟩ := (pci_interrupt_gains dev).produces hfirst rfl
    have hregistered := (probe_units_gains config installed).produces hafter hzero
    have hcaps : installed.caps = dev.caps := by
      rcases (reports_pci_interrupt dev).produces hfirst with ⟨-, hlt⟩ | ⟨-, -, hcaps⟩
      · exact absurd hlt (lt_irrefl 0)
      · exact hcaps
    refine ⟨(hcaps ▸ hregistered).after hkept, ?_⟩
    have hunits : DriverResource.irq ∉ driverTenure.acquired rest := not_acquired rfl <|
      (only_probe_units (P := (· ≠ .request .irq)) (fun _ hrole => hrole.line) _ _).produces
        hafter
    rw [Tenure.acquired_append, List.mem_append, or_iff_left hunits, hirq]
  · rw [if_pos herr] at hafter
    exact absurd ((produces_unwound hafter).symm.trans hzero) herr

end Mapped

/-! ## The three outcomes of the first part -/

/-- How probe gets to the request of the interrupt, or fails before. -/
inductive Attached (config : DriverConfig) (steps : List DriverStep) (ret : Int) (dev : Dev) : Prop
  | refused (hsteps : steps = [⟨.extra (.query (.kzalloc .device)), false⟩]) (hret : ret = -enomem)
  | undone {attempt : List DriverStep} (hundone : Undone ret attempt)
      (hcalm : ∀ step ∈ attempt, ¬ crashes step = true)
      (hsteps : steps = ⟨.extra (.query (.kzalloc .device)), true⟩ ::
        (attempt ++ [⟨.extra (.command (.kfree .device)), ()⟩]))
  | mapped {start mapped : Dev} {attached tail : List DriverStep}
      (hstart : start.intType = config.intType.truncate 8) (hmapped : Mapped start mapped attached)
      (hline : .irq ∉ driverTenure.acquired attached)
      (htail : Produces (probeMapped config mapped) tail (ret, dev))
      (hsteps : steps = ⟨.extra (.query (.kzalloc .device)), true⟩ :: (attached ++ tail))

/-- Every probe has one of these outcomes. -/
theorem probe_attached (h : Produces (pciProbe config) steps (ret, dev)) :
    Attached config steps ret dev := by
  obtain ⟨granted, afterDevice, rfl, hafter⟩ := produces_query_bind.mp h
  cases granted with
  | false =>
      obtain ⟨rfl, heq⟩ := produces_pure.mp hafter
      cases heq
      exact .refused rfl rfl
  | true =>
  obtain ⟨init, ⟨err, inited⟩, rest, rfl, hinit, hrest⟩ := produces_bind.mp hafter
  dsimp only at hrest
  obtain ⟨attached, result, interrupt, rfl, hattached, hinterrupt⟩ := produces_bind.mp hinit
  have hledger := (pci_map_ledger _).produces hattached
  cases result with
  | error code =>
      obtain ⟨rfl, heq⟩ := produces_pure.mp hinterrupt
      cases heq
      have hne : err ≠ 0 := hledger.error.ne
      rw [if_pos hne] at hrest
      obtain ⟨tail, rfl, htail⟩ := produces_command_bind.mp hrest
      obtain ⟨rfl, heq⟩ := produces_pure.mp htail
      cases heq
      have hmild := (only_pci_map (P := (· ≠ .hazard)) nofun nofun nofun nofun _).produces hattached
      refine .undone hledger (fun step hstep => ?_) (by simp)
      exact ne_true_of_eq_false (mild_step (hmild step hstep) step.2).1
  | ok mapped =>
      have hline : DriverResource.irq ∉ driverTenure.acquired attached :=
        not_acquired rfl ((only_pci_map (P := (· ≠ .request .irq)) nofun nofun nofun nofun
          _).produces hattached)
      have htail : Produces (probeMapped config mapped) (interrupt ++ rest) (ret, dev) :=
        produces_bind.mpr ⟨interrupt, (err, inited), rest, rfl, hinterrupt, hrest⟩
      exact .mapped rfl hledger hline htail (by simp)

/-! ## Probe behind the mappings -/

section Behind

variable {start mapped : Dev} {attached tail : List DriverStep}

/-- The steps of a probe that gets to the request of the interrupt. -/
def attachedSteps (attached tail : List DriverStep) : List DriverStep :=
  ⟨.extra (.query (.kzalloc .device)), true⟩ :: (attached ++ tail)

variable (hmapped : Mapped start mapped attached)
include hmapped

/-- What the probe holds it acquired before or behind the mappings. -/
theorem attached_holds {resource : DriverResource} (hkept : resource ∉ driverTenure.releases tail) :
    driverTenure.Holds (attachedSteps attached tail) resource ↔ resource = .memory .device ∨
      resource ∈ driverTenure.acquired attached ∨ resource ∈ driverTenure.acquired tail := by
  have hreleases : resource ∉ driverTenure.releases (attachedSteps attached tail) := by
    simp only [attachedSteps, releases_query, Tenure.releases_append, hmapped.releases,
      List.nil_append]
    exact hkept
  rw [Tenure.Holds, and_iff_left hreleases]
  simp [attachedSteps, Query.resource]

variable (htail : Produces (probeMapped config mapped) tail (ret, dev))
include htail

/-- The table of the MSI-X entries is never freed. -/
theorem attached_not_balanced : ¬ driverTenure.Balanced (attachedSteps attached tail) :=
  Tenure.Holds.not_balanced ((attached_holds hmapped (behind_spares_table htail)).mpr
    (Or.inr (Or.inl hmapped.table)))

/-- No early request failed. -/
theorem attached_not_early :
    ¬ ∃ step ∈ attachedSteps attached tail, early step.1 = true ∧ noticed step = true := by
  rintro ⟨step, hstep, hearly, hfailed⟩
  rcases List.mem_cons.mp hstep with rfl | hstep
  · cases hfailed
  rcases List.mem_append.mp hstep with hattached | htail'
  · exact hmapped.granted step hattached hfailed
  · exact behind_not_early htail ⟨step, htail', hearly, hfailed⟩

/-- The capabilities that are read are those of the device. -/
theorem attached_caps {caps : Caps} :
    (∃ step ∈ attachedSteps attached tail, capsRead step = some caps) ↔ caps = mapped.caps := by
  rw [← hmapped.caps]
  constructor
  · rintro ⟨step, hstep, hcaps⟩
    rcases List.mem_cons.mp hstep with rfl | hstep
    · cases hcaps
    rcases List.mem_append.mp hstep with hattached | htail'
    · exact ⟨step, hattached, hcaps⟩
    · rw [(not_read_behind (behind_steps htail step htail')).1] at hcaps
      cases hcaps
  · rintro ⟨step, hstep, hcaps⟩
    exact ⟨step, List.mem_cons_of_mem _ (List.mem_append_left _ hstep), hcaps⟩

omit hmapped in
/-- The second mapping is decided before the interrupt. -/
theorem attached_bar2 : (∀ step ∈ attachedSteps attached tail, ¬ bar2Refused step = true) ↔
    ∀ step ∈ attached, ¬ bar2Refused step = true := by
  simp only [attachedSteps, List.forall_mem_cons, List.forall_mem_append]
  exact ⟨fun hall => hall.2.1, fun hall => ⟨nofun, hall, fun step hstep =>
    (not_read_behind (behind_steps htail step hstep)).2⟩⟩

/-- The result is 0 exactly if nothing fails, the controller passes, and there are at most two
adapters. -/
theorem attached_returns : ret = 0 ↔ (∀ step ∈ attachedSteps attached tail, ¬ noticed step = true) ∧
    resetPassed (attachedSteps attached tail) = true ∧ (config.adapters mapped.caps).toNat ≤ 2 := by
  have hskip : resetPassed (attachedSteps attached tail) = resetPassed tail := by
    rw [attachedSteps, ← List.cons_append]
    exact reset_passed_skip (List.forall_mem_cons.mpr ⟨unread_extra _, hmapped.unread⟩)
  rw [hskip, probe_mapped_returns htail]
  simp only [attachedSteps, List.forall_mem_cons, List.forall_mem_append]
  exact ⟨fun hall => ⟨⟨nofun, hmapped.granted, hall.1⟩, hall.2⟩, fun hall => ⟨hall.1.2.2, hall.2⟩⟩

/-- A probe that returns `0` leaves the device up only with both mappings and an interrupt. -/
theorem attached_up (hline : .irq ∉ driverTenure.acquired attached) (hzero : ret = 0) :
    Up config (attachedSteps attached tail) ↔
      (∀ step ∈ attachedSteps attached tail, ¬ bar2Refused step = true) ∧
        knownIntType mapped.intType = true := by
  obtain ⟨hregistered, hirq⟩ := probe_mapped_gains htail hzero
  have hkept : ∀ resource : DriverResource, (∀ buffer, resource ≠ .board buffer) →
      resource ∉ driverTenure.releases tail := by
    intro resource hresource hreleased
    obtain ⟨buffer, hbuffer⟩ := hregistered.kept resource hreleased
    exact hresource buffer hbuffer
  have hbar : ∀ bar, driverTenure.Holds (attachedSteps attached tail) (.mapping bar) ↔
      .mapping bar ∈ driverTenure.acquired attached := by
    intro bar
    have hnot : .mapping bar ∉ driverTenure.acquired tail := not_acquired rfl fun step hstep =>
      (behind_steps htail step hstep).mono fun _ hrole => hrole.mapping
    simp [attached_holds hmapped (hkept (.mapping bar) nofun), hnot]
  have hinstalled : driverTenure.Holds (attachedSteps attached tail) .irq ↔
      .irq ∈ driverTenure.acquired tail := by
    simp [attached_holds hmapped (hkept .irq nofun), hline]
  rw [attached_bar2 htail, ← hmapped.bar2, ← hirq]
  constructor
  · exact fun hup => ⟨(hbar _).mp (hup.bars .bar2), hinstalled.mp hup.irq⟩
  · rintro ⟨hbar2, hacquired⟩
    have hholds : ∀ {resource : DriverResource}, (∀ buffer, resource ≠ .board buffer) →
        resource ∈ driverTenure.acquired tail →
          driverTenure.Holds (attachedSteps attached tail) resource :=
      fun hresource hmem => (attached_holds hmapped (hkept _ hresource)).mpr (Or.inr (Or.inr hmem))
    refine ⟨fun bar => ?_, hinstalled.mpr hacquired, ?_, ?_⟩
    · cases bar with
      | bar0 => exact (hbar _).mpr hmapped.bar0
      | bar2 => exact (hbar _).mpr hbar2
    · exact fun i hi => hholds nofun (hregistered.masters i hi)
    · intro step hstep caps hcaps i hi resource hresource
      obtain rfl := (attached_caps hmapped htail).mp ⟨step, hstep, hcaps⟩
      refine hholds ?_ (hregistered.adapters i hi resource hresource)
      rintro buffer rfl
      simp [adapterResources] at hresource

end Behind

/-- A probe that comes through completely returns `0`. -/
theorem complete_returns (h : Produces (pciProbe config) steps (ret, dev))
    (hcomplete : ProbeComplete config steps) : ret = 0 := by
  cases probe_attached h with
  | refused hsteps hret =>
      subst hsteps
      exact absurd rfl (complete_unnoticed hcomplete _ List.mem_cons_self)
  | undone hundone hcalm hsteps =>
      subst hsteps
      obtain ⟨step, hstep, -, hfailed⟩ := hundone.failure
      exact absurd hfailed (complete_unnoticed hcomplete step
        (List.mem_cons_of_mem _ (List.mem_append_left _ hstep)))
  | mapped hstart hmapped hline htail hsteps =>
      subst hsteps
      obtain ⟨step, hstep, hcaps⟩ := (attached_caps hmapped htail).mpr rfl
      exact (attached_returns hmapped htail).mpr
        ⟨complete_unnoticed hcomplete, hcomplete.reset, hcomplete.adapters step hstep _ hcaps⟩

/-- Without PLL tables the clocks do not come up. -/
theorem custom_clocks_crash (hroot : config.rootClk = .clkRootCustom)
    (h : Produces (probeMapped config dev) steps (0, dev')) : ∃ step ∈ steps, crashes step = true := by
  have hclocks : ∀ dev, (cguInit config dev).Traces fun result steps =>
      result.1 ≠ 0 ∨ ∃ step ∈ steps, crashes step = true := by
    intro dev
    unfold cguInit
    rw [hroot]
    refine traces_query_bind.mpr ⟨Or.inl (by simp [enomem]), ?_⟩
    -- The first PLL is set up with the first of its table.
    refine fun _ => traces_iff_produces.mpr fun rest result _ => Or.inr ?_
    exact ⟨_, List.mem_cons_of_mem _ List.mem_cons_self, rfl⟩
  obtain ⟨first, ⟨err, installed⟩, rest, rfl, hfirst, hafter⟩ := produces_bind.mp h
  dsimp only at hafter
  by_cases herr : err = 0
  · rw [if_neg (not_not_intro herr)] at hafter
    obtain ⟨clocks, ⟨err, clocked⟩, later, rfl, hcgu, hunits⟩ := produces_bind.mp hafter
    dsimp only at hunits
    rcases (hclocks installed).produces hcgu with hne | ⟨step, hstep, hcrash⟩
    · rw [if_pos hne] at hunits
      exact absurd (produces_unwound hunits).symm hne
    · exact ⟨step, List.mem_append_right _ (List.mem_append_left _ hstep), hcrash⟩
  · rw [if_pos herr] at hafter
    exact absurd (produces_unwound hafter).symm herr

/-! ## All or nothing -/

/-- An early failure is one that probe notices. -/
theorem early_noticed {step : DriverStep} (hearly : early step.1 = true) :
    failed step = noticed step := by
  obtain ⟨op, answer⟩ := step
  cases op with
  | extra op =>
      cases op with
      | board op => cases hearly
      | _ => exact Bool.or_false _
  | _ => cases hearly

/-- A probe that fails before the interrupt is requested releases what it acquired. -/
theorem undone_all_or_nothing {attempt : List DriverStep} (hundone : Undone ret attempt)
    (hcalm : ∀ step ∈ attempt, ¬ crashes step = true) :
    AllOrNothing config (⟨.extra (.query (.kzalloc .device)), true⟩ ::
      (attempt ++ [⟨.extra (.command (.kfree .device)), ()⟩])) ret := by
  refine ⟨?_, fun hzero => absurd hundone.error (by omega), fun _ => ⟨hundone.error, ?_⟩⟩
  · intro step hstep
    rcases List.mem_cons.mp hstep with rfl | hstep
    · simp [crashes]
    rcases List.mem_append.mp hstep with hattempt | hfree
    · exact hcalm step hattempt
    · rw [List.mem_singleton.mp hfree]
      simp [crashes]
  · have hperm := (hundone.balanced.append_right [.memory .device]).trans List.perm_append_comm
    simpa [Tenure.Balanced, Query.resource, Command.resource] using hperm

/-- A probe that gets to the request of the interrupt and is all or nothing comes through. -/
theorem attached_complete {start mapped : Dev} {attached tail : List DriverStep}
    (h : Produces (pciProbe config) (attachedSteps attached tail) (ret, dev))
    (hstart : start.intType = config.intType.truncate 8) (hmapped : Mapped start mapped attached)
    (hline : .irq ∉ driverTenure.acquired attached)
    (htail : Produces (probeMapped config mapped) tail (ret, dev))
    (hall : AllOrNothing config (attachedSteps attached tail) ret) :
    ProbeComplete config (attachedSteps attached tail) := by
  obtain ⟨hcalm, hup, hdown⟩ := hall
  have hzero : ret = 0 := by
    by_contra hne
    exact attached_not_balanced hmapped htail (hdown hne).2
  obtain ⟨hbar2, hknown⟩ := (attached_up hmapped htail hline hzero).mp (hup hzero)
  obtain ⟨hgranted, hreset, hadapters⟩ := (attached_returns hmapped htail).mp hzero
  -- What is not noticed would have crashed.
  have hsound : ∀ step ∈ attachedSteps attached tail, ¬ faulty step = true := by
    intro step hstep hfaulty
    obtain ⟨found, hfound, hcrash⟩ := fault_rule.pci_probe.produces h ⟨step, hstep, hfaulty⟩
    exact hcalm found hfound hcrash
  refine ⟨fun step hstep hfailed => ?_, hsound, fun hroot => ?_, hbar2, ?_, hreset,
    fun step hstep caps hcaps => ?_⟩
  · rcases Bool.or_eq_true_iff.mp hfailed with hnoticed | hunmapped
    · exact hgranted step hstep hnoticed
    · exact hsound step hstep (faulty_of_unmapped hunmapped)
  · obtain ⟨step, hstep, hcrash⟩ := custom_clocks_crash hroot (hzero ▸ htail)
    exact hcalm step (List.mem_cons_of_mem _ (List.mem_append_right _ hstep)) hcrash
  · rw [← hstart, ← hmapped.intType]
    exact hknown
  · obtain rfl := (attached_caps hmapped htail).mp ⟨step, hstep, hcaps⟩
    exact hadapters

/-- A probe that comes through completely crashes nowhere. -/
theorem complete_calm (h : Produces (pciProbe config) steps (ret, dev))
    (hcomplete : ProbeComplete config steps) : ∀ step ∈ steps, ¬ crashes step = true := by
  intro step hstep hcrash
  obtain ⟨found, hfound, hfaulty⟩ :=
    (crash_rule hcomplete.rootClk).pci_probe.produces h ⟨step, hstep, hcrash⟩
  exact hcomplete.sound found hfound hfaulty

/-- The steps of a probe in an environment. -/
def probeSteps (config : DriverConfig) (env : DriverEnvironment) : List DriverStep :=
  (pciProbe config).transcript (driverWorld env) Board.reset

/-- The probe has these steps. -/
theorem produces_probe_steps (config : DriverConfig) (env : DriverEnvironment) :
    ∃ ret dev, Produces (pciProbe config) (probeSteps config env) (ret, dev) :=
  ⟨_, _, produces_run_pair (driverWorld env) (pciProbe config) Board.reset⟩

/-- In the plain environment the probe of a device with one adapter comes through. -/
theorem plain_probe_complete : ProbeComplete .plain (probeSteps .plain .plain) := by
  have hsteps : (∀ step ∈ probeSteps .plain .plain, ¬ failed step = true) ∧
      (∀ step ∈ probeSteps .plain .plain, ¬ faulty step = true) ∧
      (∀ step ∈ probeSteps .plain .plain, ¬ bar2Refused step = true) ∧
        resetPassed (probeSteps .plain .plain) = true := by
    decide +kernel
  refine ⟨hsteps.1, hsteps.2.1, nofun, hsteps.2.2.1, by decide, hsteps.2.2.2, ?_⟩
  rintro step - ⟨_ | _, _ | _⟩ - <;> decide

end Driver

end Saa7231
