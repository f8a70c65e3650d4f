import Saa7231.Driver.ProbeFailure

/-!
# The removal after a successful probe

`saa7231_pci_remove` runs the exit functions of all subsystems, but none of them frees the table of
the MSI-X entries. After every probe that returned `0` the table is still allocated when the
removal ends (`removal_holds_table`).
-/

namespace Saa7231.Driver

open Interaction Bus Program

variable {config : DriverConfig} {steps steps' : List DriverStep} {dev removed : Dev}

/-- A successful probe allocates the table of the MSI-X entries and keeps it. -/
theorem probe_holds_table (h : Produces (pciProbe config) steps (0, dev)) :
    driverTenure.Holds steps (.memory .msixEntries) := by
  cases probe_attached h with
  | refused hsteps hret => cases hret
  | undone hundone hsteps => exact absurd hundone.error (lt_irrefl 0)
  | mapped hstart hmapped hline htail hsteps =>
      subst hsteps
      exact (attached_holds hmapped (behind_spares_table htail)).mpr (Or.inr (Or.inl hmapped.table))

/-- The removal does not free it. -/
theorem removal_holds_table (h : Produces (pciProbe config) steps (0, dev))
    (hremove : Produces (pciRemove removed) steps' ()) :
    driverTenure.Holds (steps ++ steps') (.memory .msixEntries) := by
  have honly : (pciRemove removed).Only (Within (· ≠ .release .msix)) :=
    only_pci_remove (fun _ hne heq => hne (Role.release.inj heq)) nofun removed nofun
  exact (probe_holds_table h).append_right (not_released rfl (honly.produces hremove))

/-- No successful probe is undone by the removal. -/
theorem removal_never_balances (h : Produces (pciProbe config) steps (0, dev))
    (hremove : Produces (pciRemove dev) steps' ()) : ¬ driverTenure.Balanced (steps ++ steps') :=
  (removal_holds_table h hremove).not_balanced

/-- A successful probe in the plain environment, and the removal of its device. -/
theorem plain_probe_removed : ∃ dev steps', Produces (pciProbe .plain) (probeSteps .plain .plain)
    (0, dev) ∧ Produces (pciRemove dev) steps' () := by
  obtain ⟨ret, dev, hsteps⟩ := produces_probe_steps .plain .plain
  obtain rfl := complete_returns hsteps plain_probe_complete
  exact ⟨dev, _, hsteps, produces_run (driverWorld .plain) (pciRemove dev) Board.reset⟩

theorem plain_removal_not_balanced : ∃ dev steps',
    Produces (pciProbe .plain) (probeSteps .plain .plain) (0, dev) ∧
      Produces (pciRemove dev) steps' () ∧
        ¬ driverTenure.Balanced (probeSteps .plain .plain ++ steps') := by
  obtain ⟨dev, steps', hsteps, hremove⟩ := plain_probe_removed
  exact ⟨dev, steps', hsteps, hremove, removal_never_balances hsteps hremove⟩

/-- The removal leaves the table of the MSI-X entries behind. -/
theorem removal_leaks_msix_entries : ¬ ∀ (config : DriverConfig) (steps steps' : List DriverStep)
    (dev : Dev), Produces (pciProbe config) steps (0, dev) → Produces (pciRemove dev) steps' () →
      driverTenure.Balanced (steps ++ steps') := by
  intro h
  obtain ⟨dev, steps', hsteps, hremove⟩ := plain_probe_removed
  exact (removal_holds_table hsteps hremove).not_balanced (h _ _ _ _ hsteps hremove)

end Saa7231.Driver
