import Saa7231.Driver.PciMapping
import Saa7231.Dvb.Removal

/-!
# Answers that end probe badly

A `BUG_ON` stops probe where it is, and a store behind a page table destroys memory of others.
Neither is an error that probe could undo. Apart from a root clock without PLL tables, the cause is
a mapping for the device: a page table or a page at an unfit address, no segment at all, or more
pages than a table has entries. A probe crashes exactly on such an answer (`probe_crashes`,
`probe_faults`).
-/

namespace Saa7231

open Interaction Bus Program

/-- A step at which the kernel stops or loses memory of others. -/
def crashes : DriverStep → Bool
  | ⟨.extra (.board op), answer⟩ =>
      reportsBug ⟨.extra op, answer⟩ || storesBehind ⟨.extra op, answer⟩
  | ⟨.extra (.msi .bug), _⟩ => true
  | _ => false

/-- A mapping for the device that leads to such a step. -/
def faulty : DriverStep → Bool
  | ⟨.extra (.board op), answer⟩ => unsound ⟨.extra op, answer⟩ || overfull ⟨.extra op, answer⟩
  | _ => false

/-- A scatterlist is mapped to no segment. -/
def unmapped : DriverStep → Bool
  | ⟨.extra (.board (.dmaMapSg _ _)), answer⟩ =>
      match (show Except Nat (List (BitVec 64 × Nat)) from answer) with
      | .ok segments => segments.isEmpty
      | .error _ => false
  | _ => false

/-- A step that fails. That no segment is mapped is a failure too, although the source only looks
for negative results. -/
def failed (step : DriverStep) : Bool := noticed step || unmapped step

/-- A mapping without a segment runs into a `BUG_ON`. -/
theorem faulty_of_unmapped {step : DriverStep} (h : unmapped step = true) : faulty step = true := by
  obtain ⟨op, answer⟩ := step
  cases op with
  | extra op =>
      cases op with
      | board op =>
          cases op with
          | dmaMapSg list pages =>
              have hfaulty : ∀ reply : Except Nat (List (BitVec 64 × Nat)),
                  unmapped ⟨.extra (.board (.dmaMapSg list pages)), reply⟩ = true →
                    faulty ⟨.extra (.board (.dmaMapSg list pages)), reply⟩ = true := by
                rintro (code | segments) hunmapped
                · cases hunmapped
                · exact Bool.or_eq_true_iff.mpr (Or.inl (unsound_sg.mpr (Or.inl hunmapped)))
              exact hfaulty answer h
          | _ => cases h
      | _ => cases h
  | _ => cases h

/-- Without a role in this no operation is concerned. -/
theorem mild_step {op : BusOp DriverOp} (hop : Within (· ≠ .hazard) op)
    (answer : BusAns DriverAns op) :
    crashes ⟨op, answer⟩ = false ∧ faulty ⟨op, answer⟩ = false := by
  cases op with
  | extra op =>
      cases op with
      | board op =>
          cases hharmless : op.harmless with
          | false => exact absurd rfl (hop .hazard (by simp [DriverOp.role, hharmless]))
          | true =>
              have hop : Harmless (.extra op) := hharmless
              obtain ⟨hbug, hstray, hsound, hfits⟩ := harmless_step hop answer
              exact ⟨Bool.or_eq_false_iff.mpr ⟨hbug, hstray⟩,
                Bool.or_eq_false_iff.mpr ⟨hsound, hfits⟩⟩
      | msi op =>
          cases op with
          | bug => exact absurd rfl (hop .hazard rfl)
          | _ => exact ⟨rfl, rfl⟩
      | _ => exact ⟨rfl, rfl⟩
  | _ => exact ⟨rfl, rfl⟩

namespace Driver

/-- What has to be shown of a cause and an effect: that the cause is a matter of the mappings, and
the rule for the parts of probe that map or check something. -/
structure ProbeRule (config : DriverConfig) (cause effect : DriverStep → Prop) : Prop where
  mild : ∀ op, Within (· ≠ .hazard) op → ∀ answer, ¬ cause ⟨op, answer⟩
  clocks : ∀ dev, (cguInit config dev).Entails cause effect
  stream : ∀ adapType i,
    (liftBoard (streamInit config.ts .digitalCapture adapType i tsPages188)).Entails cause effect

namespace ProbeRule

variable {config : DriverConfig} {cause effect : DriverStep → Prop} {α : Type}

/-- A part of probe without such operations. -/
theorem of_mild (h : ProbeRule config cause effect) {program : DriverProgram α}
    (honly : program.Only (Within (· ≠ .hazard))) : program.Entails cause effect :=
  entails_of_only (honly.mono fun op hop => h.mild op hop)

/-- The vector of an adapter that has a stream is in the table. -/
theorem dvb_register_stream (h : ProbeRule config cause effect) (i : Nat) (dev : Dev) :
    (dvbRegisterStream config i dev).Entails cause effect := by
  have hnumber : (liftBoard (streamInit config.ts .digitalCapture
      ((config.dvb dev.caps).adapType i) i tsPages188)).Yields fun stream =>
        stream.isSome = true → i < 2 := by
    by_cases hi : i < 2
    · exact Yields.of_forall fun _ _ => hi
    · refine (lift_board_yields (stream_init_third _ _ _ (Nat.not_lt.mp hi))).mono ?_
      rintro _ rfl hsome
      cases hsome
  unfold dvbRegisterStream
  refine (h.stream _ i).bind_yields hnumber fun stream hstream => ?_
  cases stream with
  | none => exact entails_pure _
  | some stream =>
      refine h.of_mild ((command_bind_only _ _).mpr ⟨within_command.mpr nofun, ?_⟩)
      refine (command_bind_only _ _).mpr ⟨within_command.mpr nofun, ?_⟩
      refine Only.bind (only_add_event on_bus_within _ _ _ fun hbeyond => ?_) fun _ => trivial
      have hvector := (config.dvb dev.caps).vector_le (hstream rfl)
      exact absurd (Nat.lt_of_lt_of_le hbeyond hvector) (by decide)

theorem dvb_register (h : ProbeRule config cause effect) (i : Nat) (dev : Dev) :
    (dvbRegister config i dev).Entails cause effect := by
  unfold dvbRegister
  refine (h.of_mild (only_dvb_register_demux nofun nofun)).bind fun ret => ?_
  refine entails_ite.mpr ⟨fun _ => entails_pure _, fun _ => ?_⟩
  have hassign : (assign (.dvbDevice i)).Entails cause effect :=
    h.of_mild ((command_only _).mpr (within_command.mpr nofun))
  refine hassign.bind fun _ => (h.of_mild (only_dvb_register_fe nofun nofun config)).bind fun fe => ?_
  exact entails_ite.mpr ⟨fun _ => entails_pure _, fun _ => h.dvb_register_stream i _⟩

theorem dvb_register_all (h : ProbeRule config cause effect) (n i : Nat) (dev : Dev) :
    (dvbRegisterAll config i n dev).Entails cause effect := by
  induction n generalizing i dev with
  | zero => exact entails_pure _
  | succ n ih =>
      refine (h.dvb_register i dev).bind fun registered => ?_
      exact entails_ite.mpr ⟨fun _ => entails_pure _, fun _ => ih (i + 1) _⟩

theorem dvb_init (h : ProbeRule config cause effect) (dev : Dev) :
    (dvbInit config dev).Entails cause effect := by
  have hmemory : (kzalloc .dvb).Entails cause effect :=
    h.of_mild ((only_perform _).mpr (within_query.mpr nofun))
  have hall : ∀ n dev, (dvbRegisterAll config 0 n dev).Entails cause effect :=
    fun n dev => h.dvb_register_all n 0 dev
  unfold dvbInit
  refine hmemory.bind fun granted => entails_ite.mpr ⟨fun _ => entails_pure _, fun _ => ?_⟩
  cases config.frontendEnable with
  | false => exact hall _ _
  | true =>
      have henable : (command .frontendEnable).Entails cause effect :=
        h.of_mild ((command_only _).mpr (within_command.mpr nofun))
      exact henable.bind fun _ => hall _ _

/-- The error paths of probe only release. -/
theorem unwound (h : ProbeRule config cause effect) {undo : DriverProgram Unit} {err : Int}
    {dev : Dev} (honly : undo.Only (Within (· ≠ .hazard))) :
    (undo >>= fun _ => pure (err, dev)).Entails cause effect :=
  (h.of_mild honly).bind fun _ => entails_pure _

theorem probe_inputs (h : ProbeRule config cause effect) (dev : Dev) :
    (probeInputs config dev).Entails cause effect := by
  have hfail4 : ∀ dev, (probeFail4 dev).Only (Within (· ≠ .hazard)) :=
    only_probe_fail4 (fun _ _ => nofun) nofun
  have hfail5 : ∀ dev, (probeFail5 dev).Only (Within (· ≠ .hazard)) :=
    only_probe_fail5 (fun _ _ => nofun) nofun
  unfold probeInputs
  refine (h.of_mild (only_i2c_init nofun (fun _ => nofun) (fun _ => nofun) config)).bind fun _ => ?_
  refine entails_ite.mpr ⟨fun _ => h.unwound (hfail4 dev), fun _ => ?_⟩
  refine (h.of_mild (only_bsl_autoload nofun config)).bind fun _ => ?_
  refine (h.of_mild only_if_init).bind fun _ => ?_
  refine entails_ite.mpr ⟨fun _ => h.unwound (hfail4 dev), fun _ => ?_⟩
  refine (h.dvb_init dev).bind fun inited => ?_
  refine entails_ite.mpr ⟨fun _ => h.unwound (hfail5 _), fun _ => ?_⟩
  exact (h.of_mild (only_create_files nofun _)).bind fun _ => entails_pure _

theorem probe_units (h : ProbeRule config cause effect) (dev : Dev) :
    (probeUnits config dev).Entails cause effect := by
  have hfail2 : ∀ dev, (probeFail2 dev).Only (Within (· ≠ .hazard)) :=
    only_probe_fail2 (fun _ _ => nofun) nofun
  have hfail3 : ∀ dev, (probeFail3 dev).Only (Within (· ≠ .hazard)) := fun dev =>
    Only.bind ((command_only _).mpr (within_command.mpr nofun)) fun _ => hfail2 dev
  unfold probeUnits
  refine (h.clocks dev).bind fun clocked => ?_
  refine entails_ite.mpr ⟨fun _ => h.unwound (hfail2 _), fun _ => ?_⟩
  refine (h.of_mild (only_msi_init nofun nofun _)).bind fun armed => ?_
  exact entails_ite.mpr ⟨fun _ => h.unwound (hfail3 _), fun _ => h.probe_inputs _⟩

/-- The rule holds over the whole probe. -/
theorem pci_probe (h : ProbeRule config cause effect) : (pciProbe config).Entails cause effect := by
  have hmemory : (kzalloc .device).Entails cause effect :=
    h.of_mild ((only_perform _).mpr (within_query.mpr nofun))
  have hfree : probeFail1.Only (Within (· ≠ .hazard)) :=
    (command_only _).mpr (within_command.mpr nofun)
  unfold pciProbe
  refine hmemory.bind fun granted => entails_ite.mpr ⟨fun _ => entails_pure _, fun _ => ?_⟩
  refine (h.of_mild (only_pci_init nofun nofun nofun nofun nofun _)).bind fun inited => ?_
  exact entails_ite.mpr ⟨fun _ => h.unwound hfree, fun _ => h.probe_units _⟩

end ProbeRule

/-! ## The two rules -/

section Rules

variable {config : DriverConfig}

theorem ts_pages_plausible : PlausiblePages tsPages188 := by decide

/-- With PLL tables for the root clock a probe crashes only on a mapping. -/
theorem crash_rule (hroot : config.rootClk ≠ .clkRootCustom) :
    ProbeRule config (fun step => crashes step = true) (fun step => faulty step = true) where
  mild op hop answer := ne_true_of_eq_false (mild_step hop answer).1
  clocks dev := by
    have hmild : (cguInit config dev).Only (Within (· ≠ .hazard)) :=
      only_cgu_init nofun config (fun hcustom => absurd hcustom hroot) dev
    exact entails_of_only (hmild.mono fun op hop answer =>
      ne_true_of_eq_false (mild_step hop answer).1)
  stream adapType i := by
    have hrule := ((bug_rule ts_pages_plausible).stream_init config.ts adapType i).or
      (stray_rule.stream_init config.ts adapType i)
    refine hrule.relabel (fun op answer hcrash => ?_) fun op answer hfaulty => ?_
    · cases op with
      | extra op => exact Bool.or_eq_true_iff.mp hcrash
      | _ => cases hcrash
    · cases op with
      | extra op => exact Bool.or_eq_true_iff.mpr hfaulty
      | _ => rcases hfaulty with h | h <;> cases h

/-- And it crashes on every such mapping. -/
theorem fault_rule :
    ProbeRule config (fun step => faulty step = true) (fun step => crashes step = true) where
  mild op hop answer := ne_true_of_eq_false (mild_step hop answer).2
  clocks dev := by
    have hbug : bug.Only fun op => ∀ answer, ¬ faulty ⟨op, answer⟩ = true :=
      ⟨fun _ => nofun, fun _ => trivial⟩
    have hprogram : (cguProgram bug config.verbose config.rootClk).Only
        fun op => ∀ answer, ¬ faulty ⟨op, answer⟩ = true :=
      only_cgu_program (fun _ => hbug) (fun _ _ _ => nofun) (fun _ _ => nofun) (fun _ _ _ => nofun) _
    refine entails_of_only ((query_bind_only _ _).mpr ⟨fun _ => nofun, trivial, ?_⟩)
    exact Only.bind hprogram fun _ => trivial
  stream adapType i := by
    have hrule := ((unsound_rule : FaultRule _ _ tsPages188).stream_init config.ts adapType i).or
      (overfull_rule.stream_init config.ts adapType i)
    refine hrule.relabel (fun op answer hfaulty => ?_) fun op answer hcrash => ?_
    · cases op with
      | extra op => exact Bool.or_eq_true_iff.mp hfaulty
      | _ => cases hfaulty
    · cases op with
      | extra op => exact Bool.or_eq_true_iff.mpr hcrash
      | _ => rcases hcrash with h | h <;> cases h

end Rules

end Driver

end Saa7231
