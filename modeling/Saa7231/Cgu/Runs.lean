import Saa7231.Cgu.Settled
import Saa7231.Hardware.Board
import Saa7231.Interaction.Runs

/-!
# Runs of the clock unit

The clock unit together with the board under it, from `saa7231_cgu_init` on, and the calls of
`saa7231_activate_clocks` and `saa7231_disable_clocks`. In every state that the calls reach the unit
is settled (`ClockState.init_fresh`, `ClockCall.step_settled`).
-/

namespace Saa7231

open Interaction Bus Program

/-- A pair of a mode and a DMA port that `cgu_getclk_instance` accepts. -/
structure UseCase where
  mode : Mode
  port : Nat
  accepted : (cguGetclkInstance mode port).isSome

/-- The clock unit with the board under it. -/
structure ClockState where
  cgu : Cgu
  board : Board

/-- The state after a function of the unit, without its result. -/
def ClockState.after (env : Environment) (state : ClockState)
    (program : Cgu → BoardProgram (Int × Cgu)) : ClockState :=
  let ((_ret, cgu), board) := (program state.cgu).run (boardWorld env) state.board
  ⟨cgu, board⟩

/-- The state after `saa7231_cgu_init`. -/
def ClockState.init (env : Environment) (verbose : Bool) (rootClk : CguRootclk) (board : Board) :
    ClockState :=
  let (cgu, board) := (cguProgram bug verbose rootClk).run (boardWorld env) board
  ⟨cgu, board⟩

theorem ClockState.init_fresh (env : Environment) (verbose : Bool) (rootClk : CguRootclk)
    (board : Board) : (ClockState.init env verbose rootClk board).cgu.Fresh :=
  (cgu_program_fresh bug verbose rootClk).run (boardWorld env) board

/-- What every value that a function can return satisfies is true of the state after it. -/
theorem ClockState.after_of_yields {env : Environment} {state : ClockState}
    {program : Cgu → BoardProgram (Int × Cgu)} {Q : Cgu → Prop}
    (h : (program state.cgu).Yields fun result => Q result.2) :
    Q (state.after env program).cgu :=
  h.run (boardWorld env) state.board

/-- A call of `saa7231_activate_clocks` or `saa7231_disable_clocks`. -/
inductive ClockCall where
  | activate (mode : Mode) (port : Nat)
  | disable (mode : Mode) (port : Nat)

/-- The function that is called, with its arguments. -/
def ClockCall.program (version : Fin 2) (call : ClockCall) (cgu : Cgu) :
    BoardProgram (Int × Cgu) :=
  match call with
  | .activate mode port => cgu.activateClocks bug version mode port
  | .disable mode port => cgu.disableClocks mode port

/-- A call on a unit. -/
def ClockState.call (env : Environment) (version : Fin 2) (state : ClockState) (call : ClockCall) :
    ClockState :=
  state.after env (call.program version)

/-- An activation of a pair that is not accepted stops at a `BUG_ON`. -/
theorem activate_clocks_rejected {Ext : Type} {ExtAns : Ext → Type}
    {fault : BusProgram ExtAns Unit} {cgu : Cgu} {version : Fin 2} {mode : Mode} {port : Nat}
    (hport : cguGetclkInstance mode port = none) :
    cgu.activateClocks fault version mode port = (do fault; pure (-einval, cgu)) := by
  simp only [Cgu.activateClocks, hport]

/-- A call leaves a settled unit settled. -/
theorem ClockCall.program_settled {cgu : Cgu} (h : cgu.Settled) (version : Fin 2)
    (call : ClockCall) : (call.program version cgu).Yields fun result => result.2.Settled := by
  cases call with
  | activate mode port =>
      cases hport : cguGetclkInstance mode port with
      | none =>
          rw [ClockCall.program, activate_clocks_rejected hport, yields_bind]
          exact Yields.of_forall fun _ => h
      | some clkport =>
          exact activate_clocks_settled h (Option.isSome_iff_exists.mpr ⟨clkport, hport⟩)
  | disable mode port => exact disable_clocks_settled h mode port

theorem ClockCall.step_settled {env : Environment} {state : ClockState} (h : state.cgu.Settled)
    (version : Fin 2) (call : ClockCall) : (state.call env version call).cgu.Settled :=
  ClockState.after_of_yields (call.program_settled h version)

/-! ## What the calls change -/

/-- The port is active. -/
def Cgu.Uses (cgu : Cgu) (port : ClkPort) : Prop :=
  (cgu.portSetup port.number).active = 1

variable {env : Environment} {version : Fin 2} {state : ClockState}

/-- Activating an inactive port adds it to the active ones. -/
theorem ClockState.activated (env : Environment) (version : Fin 2) (h : state.cgu.Settled)
    {mode : Mode} {port : Nat} {clkport : ClkPort}
    (hport : cguGetclkInstance mode port = some (some clkport))
    (hidle : ¬ state.cgu.Uses clkport) :
    ∃ adcIn, (state.call env version (.activate mode port)).cgu =
      state.cgu.activated clkport adcIn := by
  have hyields : ((ClockCall.activate mode port).program version state.cgu).Yields
      fun result => ∃ adcIn, result.2 = state.cgu.activated clkport adcIn :=
    (activate_clocks_idle_yields h hport hidle).mono fun _ hresult => hresult.2
  exact ClockState.after_of_yields (Q := fun cgu =>
    ∃ adcIn, cgu = state.cgu.activated clkport adcIn) hyields

/-- What an activation does to the unit: nothing, or it activates an inactive port. -/
theorem ClockState.activate_cases (h : state.cgu.Settled) (mode : Mode) (port : Nat) :
    (state.call env version (.activate mode port)).cgu = state.cgu ∨
      ∃ clkport adcIn, cguGetclkInstance mode port = some (some clkport) ∧
        ¬ state.cgu.Uses clkport ∧
        (state.call env version (.activate mode port)).cgu =
          state.cgu.activated clkport adcIn := by
  have hsame : ((ClockCall.activate mode port).program version state.cgu).Yields
      (fun result => result.2 = state.cgu) →
        (state.call env version (.activate mode port)).cgu = state.cgu :=
    ClockState.after_of_yields (Q := fun cgu => cgu = state.cgu)
  cases hport : cguGetclkInstance mode port with
  | none =>
      refine Or.inl (hsame ?_)
      rw [ClockCall.program, activate_clocks_rejected hport, yields_bind]
      exact Yields.of_forall fun _ => rfl
  | some accepted =>
      cases accepted with
      | none =>
          refine Or.inl (hsame ?_)
          rw [ClockCall.program, activate_clocks_none hport]
          rfl
      | some clkport =>
          by_cases hactive : state.cgu.Uses clkport
          · refine Or.inl (hsame ?_)
            rw [ClockCall.program, activate_clocks_active hport hactive]
            rfl
          · obtain ⟨adcIn, hcgu⟩ := ClockState.activated env version h hport hactive
            exact Or.inr ⟨clkport, adcIn, rfl, hactive, hcgu⟩

/-- What a deactivation does to the unit: nothing, or it marks a port inactive and switches the
output of the CAM off. -/
theorem ClockState.disable_cases (env : Environment) (version : Fin 2) (state : ClockState)
    (mode : Mode) (port : Nat) :
    (state.call env version (.disable mode port)).cgu = state.cgu ∨
      ∃ clkport status, (state.call env version (.disable mode port)).cgu =
        { state.cgu.updatePort clkport fun setup => { setup with active := 0 } with
          clkStatus := status } := by
  by_cases hport : ∃ clkport, cguGetclkInstance mode port = some (some clkport)
  · obtain ⟨clkport, hport⟩ := hport
    have hyields : ((ClockCall.disable mode port).program version state.cgu).Yields
        fun result => ∃ status, result.2 =
          { state.cgu.updatePort clkport fun setup => { setup with active := 0 } with
            clkStatus := status } := by
      refine (disable_clocks_yields state.cgu hport).mono fun _ hresult => ?_
      obtain ⟨status, hcgu, _⟩ := hresult
      exact ⟨status, hcgu⟩
    exact Or.inr ⟨clkport, ClockState.after_of_yields (Q := fun cgu => ∃ status, cgu =
      { state.cgu.updatePort clkport fun setup => { setup with active := 0 } with
        clkStatus := status }) hyields⟩
  · have hyields : ((ClockCall.disable mode port).program version state.cgu).Yields
        fun result => result.2 = state.cgu := by
      rw [ClockCall.program, disable_clocks_none (not_exists.mp hport)]
      rfl
    exact Or.inl (ClockState.after_of_yields (Q := fun cgu => cgu = state.cgu) hyields)

end Saa7231
