import Saa7231.Cgu.Runs

/-!
# The inputs that are recorded as set up

`clkin_setup` records the inputs that `cgu_system_setup` has set up, so that its loop can be
skipped. The loop only looks at inputs that are active, and nothing but the loop makes an input
active. No input is ever set up therefore, while the mask of the first use case is recorded all the
same (`inputs_set_up_iff`).
-/

namespace Saa7231

open Interaction Bus Program

/-- The input is programmed with a preset: programming it again would change no register. -/
def Programmed (env : Environment) (state : ClockState) (clkIn preset : Nat) : Prop :=
  ((setupInput bug state.cgu clkIn preset).run (boardWorld env) state.board).2.regs =
    state.board.regs

/-- The input is active and programmed with the preset that is recorded of it. A direct input has
nothing to program. -/
structure ClockState.SetUp (env : Environment) (state : ClockState) (clkIn : Nat) : Prop where
  active : (state.cgu.clkIn clkIn).active = 1
  programmed : Programmed env state clkIn (state.cgu.clkIn clkIn).preset.toNat

/-- The inputs whose bit is recorded are set up. So are those that a port needs, when the mask of
its preset is covered and the loop over the inputs is skipped. -/
structure ClockState.InputsSetUp (env : Environment) (state : ClockState) : Prop where
  recorded : ∀ clkIn, state.cgu.clkinSetup.getLsbD clkIn → state.SetUp env clkIn
  skipped : ∀ (port : ClkPort) (preset : Nat),
    preset = clkSel.getD (state.cgu.portSetup port.number).index.toNat 0 →
      clkinPresetMask.getD preset 0 = state.cgu.clkinSetup &&& clkinPresetMask.getD preset 0 →
        ∀ clkIn, entry clkinSel clkIn preset ≠ 0 → state.SetUp env clkIn

/-- The call does not activate a clock port. -/
def ClockCall.Portless (call : ClockCall) : Prop :=
  ∀ mode port clkport, call = .activate mode port →
    cguGetclkInstance mode port ≠ some (some clkport)

variable {env : Environment} {version : Fin 2} {state : ClockState}

/-- No port was activated yet: no port is active, no input is recorded. -/
def ClockState.Fresh (state : ClockState) : Prop := state.cgu.Fresh

theorem ClockState.Fresh.inputs_set_up (h : state.Fresh) : state.InputsSetUp env := by
  constructor
  · intro clkIn hrecorded
    rw [h.clkin] at hrecorded
    exact absurd hrecorded (by simp)
  · intro port preset hpreset hcovered
    rw [h.settled.index] at hpreset
    rw [hpreset, h.clkin] at hcovered
    exact absurd hcovered (by decide)

theorem ClockCall.keeps_fresh (h : state.Fresh) {call : ClockCall} (hportless : call.Portless) :
    (state.call env version call).Fresh := by
  unfold ClockState.Fresh
  cases call with
  | activate mode port =>
      rcases ClockState.activate_cases h.settled mode port with hsame | ⟨clkport, _, hport, _⟩
      · rw [hsame]
        exact h
      · exact absurd hport (hportless mode port clkport rfl)
  | disable mode port =>
      rcases ClockState.disable_cases env version state mode port with
        hsame | ⟨clkport, status, hcgu⟩
      · rw [hsame]
        exact h
      · have hsettled : (state.call env version (.disable mode port)).cgu.Settled :=
          ClockCall.step_settled h.settled version (.disable mode port)
        rw [hcgu] at hsettled ⊢
        refine ⟨hsettled, fun i => ?_, h.clkin⟩
        simp only [Cgu.updatePort]
        split
        · rfl
        · exact h.ports i

/-- The first activation of a port records inputs that are not set up. -/
theorem ClockCall.breaks_inputs (h : state.Fresh) {call : ClockCall}
    (hportless : ¬ call.Portless) : ¬ (state.call env version call).InputsSetUp env := by
  intro hinputs
  refine hportless fun mode port clkport hcall hport => ?_
  have hidle : (state.cgu.portSetup clkport.number).active ≠ 1 := by
    rw [h.ports]
    decide
  obtain ⟨adcIn, hcgu⟩ := ClockState.activated env version h.settled hport hidle
  rw [hcall] at hinputs
  -- The mask of the first use case records input 0 among others.
  have hrecorded : (state.cgu.activated clkport adcIn).clkinSetup.getLsbD 0 := by
    show (state.cgu.clkinSetup ||| 0x0090D).getLsbD 0
    rw [h.clkin]
    decide
  rw [← hcgu] at hrecorded
  have hactive := (hinputs.recorded 0 hrecorded).active
  rw [hcgu, (h.settled.activated clkport adcIn).inputs] at hactive
  exact absurd hactive (by decide)

/-- The recorded inputs are set up throughout a run exactly when it never activates a clock port. -/
theorem inputs_set_up_iff (env : Environment) (version : Fin 2) (verbose : Bool)
    (rootClk : CguRootclk) (board : Board) (calls : List ClockCall) :
    Always (ClockState.call env version) (ClockState.InputsSetUp env)
        (.init env verbose rootClk board) calls ↔
      ∀ call ∈ calls, call.Portless := by
  have hvalid : Each (ClockState.call env version) (fun _ _ => True)
      (.init env verbose rootClk board) calls := each_of_forall fun _ _ => trivial
  have hstart : (ClockState.init env verbose rootClk board).Fresh :=
    ClockState.init_fresh env verbose rootClk board
  rw [← each_iff_forall_mem]
  exact always_iff_each hstart (fun _ h => h.inputs_set_up)
    (fun _ _ h _ hportless => ClockCall.keeps_fresh h hportless)
    (fun _ _ h _ hportless => ClockCall.breaks_inputs h hportless) hvalid

/-- The first activation of the first digital port records inputs that are not active. -/
theorem digital_inputs_not_set_up :
    ¬ Always (ClockState.call .plain 0) (ClockState.InputsSetUp .plain)
      (.init .plain false .clkRoot54MHz .reset)
      [.activate .digitalCapture streamPortTs2dDtv0] := by
  rintro ⟨_, hafter⟩
  have hfresh : (ClockState.init .plain false .clkRoot54MHz .reset).Fresh :=
    ClockState.init_fresh .plain false .clkRoot54MHz .reset
  refine ClockCall.breaks_inputs hfresh ?_ hafter
  exact fun hportless => hportless .digitalCapture streamPortTs2dDtv0 .digital0 rfl rfl

end Saa7231
