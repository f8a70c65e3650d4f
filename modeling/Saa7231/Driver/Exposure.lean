import Saa7231.Driver.Publication
import Saa7231.Driver.RemovalBalance
import Saa7231.Interaction.Runs

/-!
# Callbacks during probe and removal

Other threads call into the driver between any two steps of probe and of the removal, as soon as the
kernel knows of the callback. `Exposure` records which callbacks are possible and which of the
fields they dereference are in place. Every callback that becomes possible does so too early, so
that no probe that publishes anything is sound (`callbacks_sound_iff`).
-/

namespace Saa7231

open Interaction Bus Program

/-- The fields that go away with a piece of memory. -/
def Allocation.holds : Allocation → Field → Bool
  | .device, .eventHandler | .eventHandler, .eventHandler => true
  | .i2c, .i2cDevice _ | .dvb, .dvbDevice _ | .dvb, .dvbStream _ => true
  | _, _ => false

/-- Which callbacks are possible, and what is in place for them: the fields that are assigned and
not freed, and the locks of the feeds that are initialised. -/
structure Exposure where
  possible : Callback → Bool
  assigned : Field → Bool
  feedlock : Nat → Bool

namespace Exposure

/-- Before probe. -/
def initial : Exposure where
  possible := fun _ => false
  assigned := fun _ => false
  feedlock := fun _ => false

/-- The callback is possible from now on, or not any more. -/
def expose (exposure : Exposure) (callback : Callback) (possible : Bool) : Exposure :=
  { exposure with possible := Function.update exposure.possible callback possible }

/-- What a command changes. -/
def command (exposure : Exposure) : Command → Exposure
  | .freeIrq => exposure.expose .interrupt false
  | .i2cDelAdapter i => exposure.expose (.transfer i) false
  | .dvbDmxdevRelease i => exposure.expose (.feed i) false
  | .assign field => { exposure with assigned := Function.update exposure.assigned field true }
  | .mutexInit (.feed i) => { exposure with feedlock := Function.update exposure.feedlock i true }
  | .kfree memory =>
      { exposure with
        assigned := fun field => exposure.assigned field && !memory.holds field
        feedlock := fun i => exposure.feedlock i && memory ≠ .dvb }
  | _ => exposure

/-- What a step of the driver changes. -/
def step (exposure : Exposure) : DriverStep → Exposure
  | ⟨.extra (.command op), _⟩ => exposure.command op
  | ⟨.extra (.call op), answer⟩ => match op, (show Except Nat Unit from answer) with
    | .requestIrq, .ok () => exposure.expose .interrupt true
    | .i2cAddAdapter i, .ok () => exposure.expose (.transfer i) true
    | .dvbDmxdevInit i, .ok () => exposure.expose (.feed i) true
    | _, _ => exposure
  | _ => exposure

/-- Everything that the callback dereferences is in place. -/
def Ready (exposure : Exposure) : Callback → Prop
  | .interrupt => exposure.assigned .eventHandler = true
  | .transfer i => exposure.assigned (.i2cDevice i) = true
  | .feed i => exposure.feedlock i = true ∧ exposure.assigned (.dvbDevice i) = true ∧
      exposure.assigned (.dvbStream i) = true

/-- Whatever callback is possible is ready. -/
def Sound (exposure : Exposure) : Prop :=
  ∀ callback, exposure.possible callback = true → exposure.Ready callback

end Exposure

/-- What happens during probe and removal: a step of the driver, or a callback of another thread. -/
inductive Happening where
  | driver (step : DriverStep)
  | callback (callback : Callback)

namespace Happening

/-- The steps of the driver. -/
def step? : Happening → Option DriverStep
  | .driver step => some step
  | .callback _ => none

/-- A callback changes none of the fields. -/
def after (exposure : Exposure) : Happening → Exposure
  | .driver step => exposure.step step
  | .callback _ => exposure

/-- Other threads call only what is possible. -/
def Called (exposure : Exposure) : Happening → Prop
  | .driver _ => True
  | .callback called => exposure.possible called = true

/-- A callback finds what it dereferences in place. -/
def Finds (exposure : Exposure) : Happening → Prop
  | .driver _ => True
  | .callback called => exposure.Ready called

end Happening

/-- The steps of a probe, or of a successful probe and the removal after it. -/
inductive ProbeOrRemoval (config : DriverConfig) : List DriverStep → Prop
  | probe {steps : List DriverStep} {ret : Int} {dev : Dev}
      (hprobe : Produces (Driver.pciProbe config) steps (ret, dev)) : ProbeOrRemoval config steps
  | removal {steps steps' : List DriverStep} {dev : Dev}
      (hprobe : Produces (Driver.pciProbe config) steps (0, dev))
      (hremove : Produces (Driver.pciRemove dev) steps' ()) :
      ProbeOrRemoval config (steps ++ steps')

/-- In every interleaving of the steps with callbacks of other threads, whatever is possible is
ready, and every callback finds what it dereferences. -/
def CallbacksSound (steps : List DriverStep) : Prop :=
  ∀ run : List Happening, run.filterMap Happening.step? = steps →
    Each Happening.after Happening.Called .initial run →
      Always Happening.after Exposure.Sound .initial run ∧
        Each Happening.after Happening.Finds .initial run

/-- The kernel makes the callback possible. -/
def Callback.granted (callback : Callback) : DriverStep :=
  ⟨.extra (.call callback.publication), (.ok () : Except Nat Unit)⟩

/-- The kernel grants a request that makes a callback possible. -/
def publishes : DriverStep → Bool
  | ⟨.extra (.call op), answer⟩ => match op, (show Except Nat Unit from answer) with
    | .requestIrq, .ok () | .i2cAddAdapter _, .ok () | .dvbDmxdevInit _, .ok () => true
    | _, _ => false
  | _ => false

namespace Exposure

variable {exposure : Exposure} {step : DriverStep} {field : Field} {callback : Callback}

theorem Ready.assigned (h : exposure.Ready callback) :
    exposure.assigned callback.field = true := by
  cases callback with
  | interrupt | transfer => exact h
  | feed => exact h.2.1

/-- A granted publication makes its callback possible and assigns nothing. -/
theorem step_granted : exposure.step callback.granted = exposure.expose callback true := by
  cases callback <;> rfl

theorem publishes_eq_true (h : publishes step = true) :
    ∃ callback : Callback, step = callback.granted := by
  obtain ⟨op, answer⟩ := step
  cases op with
  | rd | wr | delay => cases h
  | extra op =>
      cases op with
      | call op =>
          rcases answer with code | ⟨⟩
          · cases op <;> cases h
          · cases op with
            | requestIrq => exact ⟨.interrupt, rfl⟩
            | i2cAddAdapter i => exact ⟨.transfer i, rfl⟩
            | dvbDmxdevInit i => exact ⟨.feed i, rfl⟩
            | _ => cases h
      | _ => cases h

/-- A field that a step does not assign is not assigned after it if it was not before. -/
theorem step_unassigned (hstep : step.1 ≠ .extra (.command (.assign field)))
    (h : exposure.assigned field = false) : (exposure.step step).assigned field = false := by
  obtain ⟨op, answer⟩ := step
  cases op with
  | rd | wr | delay => exact h
  | extra op =>
      cases op with
      | call op =>
          rcases answer with code | ⟨⟩ <;> cases op <;> exact h
      | command op =>
          cases op with
          | assign assigned =>
              have hne : field ≠ assigned := fun heq => hstep (heq ▸ rfl)
              exact (Function.update_of_ne hne ..).trans h
          | kfree memory => exact Bool.and_eq_false_iff.mpr (Or.inl h)
          | mutexInit lock => cases lock <;> exact h
          | _ => exact h
      | _ => exact h

theorem foldl_unassigned {steps : List DriverStep}
    (hsteps : ∀ step ∈ steps, step.1 ≠ .extra (.command (.assign field)))
    (h : exposure.assigned field = false) :
    (steps.foldl Exposure.step exposure).assigned field = false := by
  induction steps generalizing exposure with
  | nil => exact h
  | cons step rest ih =>
      obtain ⟨hfirst, hrest⟩ := List.forall_mem_cons.mp hsteps
      exact ih hrest (step_unassigned hfirst h)

/-- Without a granted publication nothing becomes possible. -/
theorem step_impossible (hstep : ¬ publishes step = true)
    (h : ∀ callback, exposure.possible callback = false) :
    ∀ callback, (exposure.step step).possible callback = false := by
  have hoff : ∀ off callback, (exposure.expose off false).possible callback = false := by
    intro off callback
    by_cases heq : callback = off
    · rw [heq]
      exact Function.update_self ..
    · exact (Function.update_of_ne heq ..).trans (h callback)
  obtain ⟨op, answer⟩ := step
  cases op with
  | rd | wr | delay => exact h
  | extra op =>
      cases op with
      | call op =>
          rcases answer with code | ⟨⟩
          · cases op <;> exact h
          · cases op <;> first | exact absurd rfl hstep | exact h
      | command op =>
          cases op with
          | freeIrq | i2cDelAdapter | dvbDmxdevRelease => exact hoff _
          | mutexInit lock => cases lock <;> exact h
          | _ => exact h
      | _ => exact h

end Exposure

namespace Driver

variable {config : DriverConfig} {steps : List DriverStep}

/-- In a probe, and in a removal after it, every publication stands before the assignment of the
field. -/
theorem published_first (h : ProbeOrRemoval config steps) (callback : Callback) :
    steps.Pairwise fun step step' => Fills callback step.1 → ¬ Publishes callback step'.1 := by
  cases h with
  | probe hprobe => exact (publishes_first_probe callback).produces hprobe
  | removal hprobe hremove =>
      have hunpublished := (pci_remove_unpublished callback _).produces hremove
      refine List.pairwise_append.mpr ⟨(publishes_first_probe callback).produces hprobe, ?_, ?_⟩
      · exact List.pairwise_of_forall_mem_list fun _ _ step' hstep' _ => hunpublished step' hstep'
      · exact fun _ _ step' hstep' _ => hunpublished step' hstep'

/-- The callback that a publication makes possible is not ready. -/
theorem published_not_ready (h : ProbeOrRemoval config steps) {callback : Callback}
    {done rest : List DriverStep}
    (hsteps : steps = done ++ callback.granted :: rest) :
    ¬ ((done ++ [callback.granted]).foldl Exposure.step .initial).Sound := by
  have hpairs := published_first h callback
  rw [hsteps, List.pairwise_append] at hpairs
  -- No assignment of the field stands before the publication.
  have hunassigned : (done.foldl Exposure.step .initial).assigned callback.field = false := by
    refine Exposure.foldl_unassigned (fun step hstep heq => ?_) rfl
    exact hpairs.2.2 step hstep _ List.mem_cons_self heq rfl
  intro hsound
  rw [List.foldl_append, List.foldl_cons, List.foldl_nil, Exposure.step_granted] at hsound
  have hready := (hsound callback (Function.update_self ..)).assigned
  rw [show ((done.foldl Exposure.step .initial).expose callback true).assigned callback.field =
    false from hunassigned] at hready
  cases hready

/-- Without publications all callbacks are impossible, and sound. -/
theorem sound_of_unpublished {run : List Happening} {exposure : Exposure}
    (hrun : ∀ step ∈ run.filterMap Happening.step?, ¬ publishes step = true)
    (hexposure : ∀ callback, exposure.possible callback = false)
    (hcalled : Each Happening.after Happening.Called exposure run) :
    Always Happening.after Exposure.Sound exposure run ∧
      Each Happening.after Happening.Finds exposure run := by
  have hsound : exposure.Sound := fun callback hpossible => by
    rw [hexposure] at hpossible
    cases hpossible
  induction run generalizing exposure with
  | nil => exact ⟨hsound, trivial⟩
  | cons happening rest ih =>
      cases happening with
      | driver step =>
          obtain ⟨hfirst, hrest⟩ := List.forall_mem_cons.mp hrun
          have hnext := Exposure.step_impossible hfirst hexposure
          obtain ⟨halways, heach⟩ := ih hrest hnext hcalled.2 fun callback hpossible => by
            rw [hnext] at hpossible
            cases hpossible
          exact ⟨⟨hsound, halways⟩, trivial, heach⟩
      | callback called =>
          have hpossible : exposure.possible called = true := hcalled.1
          rw [hexposure] at hpossible
          cases hpossible

theorem each_driver {exposure : Exposure} (steps : List DriverStep) :
    Each Happening.after Happening.Called exposure (steps.map Happening.driver) := by
  induction steps generalizing exposure with
  | nil => trivial
  | cons step rest ih => exact ⟨trivial, ih⟩

theorem not_sound_of_published (h : ProbeOrRemoval config steps)
    (hpublished : ∃ step ∈ steps, publishes step = true) : ¬ CallbacksSound steps := by
  obtain ⟨step, hstep, hpublishes⟩ := hpublished
  obtain ⟨callback, rfl⟩ := Exposure.publishes_eq_true hpublishes
  obtain ⟨done, rest, hsteps⟩ := List.append_of_mem hstep
  have hrun : (steps.map Happening.driver).filterMap Happening.step? = steps := by
    rw [List.filterMap_map]
    exact List.filterMap_some
  intro hsound
  -- The run without any callback from another thread already gets there.
  have halways := (hsound _ hrun (each_driver steps)).1
  have hprefix := always_iff_prefix.mp halways ((done ++ [callback.granted]).map .driver)
    (rest.map .driver) (by simp [hsteps])
  rw [List.foldl_map] at hprefix
  exact published_not_ready h hsteps hprefix

/-- The callbacks during a probe and the removal are sound exactly if the kernel grants none of the
requests that make a callback possible. -/
theorem callbacks_sound_iff (h : ProbeOrRemoval config steps) :
    CallbacksSound steps ↔ ∀ step ∈ steps, ¬ publishes step = true := by
  constructor
  · intro hsound step hstep hpublishes
    exact not_sound_of_published h ⟨step, hstep, hpublishes⟩ hsound
  · intro hsteps run hrun hcalled
    exact sound_of_unpublished (hrun ▸ hsteps) (fun _ => rfl) hcalled

/-- A probe that gets no interrupt line ends before anything is published. -/
theorem busy_line_sound : CallbacksSound (probeSteps .plain .busyLine) := by
  obtain ⟨ret, dev, hsteps⟩ := produces_probe_steps .plain .busyLine
  exact (callbacks_sound_iff (.probe hsteps)).mpr (by decide +kernel)

/-- In the plain probe an interrupt finds no table of handlers. -/
theorem plain_probe_unsound : ¬ ∀ (config : DriverConfig) (steps : List DriverStep),
    ProbeOrRemoval config steps → CallbacksSound steps := by
  intro h
  obtain ⟨ret, dev, hsteps⟩ := produces_probe_steps .plain .plain
  have hpublished : ∃ step ∈ probeSteps .plain .plain, publishes step = true := by decide +kernel
  exact not_sound_of_published (.probe hsteps) hpublished (h _ _ (.probe hsteps))

end Driver

end Saa7231
