import Saa7231.Cgu.Runs
import Saa7231.Hardware.Frame

/-!
# The clock outputs at run time

When a channel is tuned, `a328_mscd_clk_on` writes the outputs `0x58` to `0x7C` behind the back of
the clock unit. The outputs `0x80` to `0x90` belong to the PCIe link and must not be written any
more. `clock_outputs_safe` says that no activation and no tuning writes them, and that no activation
undoes what the tuning wrote.
-/

namespace Saa7231

open Interaction Bus Program

/-- The outputs that `a328_mscd_clk_on` writes, with their values. -/
def mscdOutputs : List (BitVec 32 × Nat) :=
  [(0x0000081C, 0x0058), (0x0A00081D, 0x005C), (0x0000081D, 0x0060), (0x0F00081D, 0x0064),
    (0x0F00081D, 0x0068), (0x0000081D, 0x006C), (0x0000081D, 0x0070), (0x0B00081D, 0x0074),
    (0x1200081D, 0x0078), (0x0000081D, 0x007C)]

/-- Writes outputs of the unit in the order of a list. -/
def writeOutputs (outputs : List (BitVec 32 × Nat)) : BoardProgram Unit :=
  outputs.forM fun output => wr output.1 (Mod.cgu + output.2)

/-- `a328_mscd_clk_on`. -/
def a328MscdClkOn : BoardProgram Unit := writeOutputs mscdOutputs

/-- What happens to the clocks at run time. -/
inductive RuntimeEvent where
  | activate (useCase : UseCase)
  | tune

def RuntimeEvent.program (version : Fin 2) (event : RuntimeEvent) (cgu : Cgu) :
    BoardProgram (Int × Cgu) :=
  match event with
  | .activate useCase => cgu.activateClocks bug version useCase.mode useCase.port
  | .tune => do
      a328MscdClkOn
      return (0, cgu)

/-- The clocks, and whether a channel was tuned. -/
structure RuntimeState where
  clocks : ClockState
  tuned : Bool

def RuntimeState.step (env : Environment) (version : Fin 2) (state : RuntimeState)
    (event : RuntimeEvent) : RuntimeState :=
  ⟨state.clocks.after env (event.program version), match event with
    | .activate _ => state.tuned
    | .tune => true⟩

/-- The operation writes no output of the PCIe link. -/
def SparesLink : BusOp BoardOp → Prop
  | .wr _ address => ¬ (Mod.cgu + 0x0080 ≤ address ∧ address ≤ Mod.cgu + 0x0090)
  | _ => True

/-- The outputs have the values that the tuning wrote. -/
def RuntimeState.KeepsMscd (state : RuntimeState) : Prop :=
  state.tuned → ∀ output ∈ mscdOutputs,
    state.clocks.board.regs (Mod.cgu + output.2) = output.1

variable {env : Environment} {version : Fin 2}

/-! ## Tuning -/

theorem write_outputs_only {P : BusOp BoardOp → Prop} {outputs : List (BitVec 32 × Nat)}
    (h : ∀ output ∈ outputs, P (.wr output.1 (Mod.cgu + output.2))) :
    (writeOutputs outputs).Only P := by
  induction outputs with
  | nil => trivial
  | cons output rest ih =>
      refine wr_bind_only.mpr ⟨h output List.mem_cons_self, ih fun other hother => ?_⟩
      exact h other (List.mem_cons_of_mem output hother)

/-- Outputs of different registers all have the values that were written. -/
theorem write_outputs_regs {outputs : List (BitVec 32 × Nat)}
    (hdistinct : (outputs.map Prod.snd).Nodup) (board : Board) :
    ∀ output ∈ outputs,
      ((writeOutputs outputs).run (boardWorld env) board).2.regs (Mod.cgu + output.2) =
        output.1 := by
  induction outputs generalizing board with
  | nil => simp
  | cons output rest ih =>
      obtain ⟨hfirst, hrest⟩ := List.nodup_cons.mp hdistinct
      intro written hwritten
      cases List.mem_cons.mp hwritten with
      | inr htail => exact ih hrest _ written htail
      | inl hhead =>
          -- The rest of the list writes other registers.
          have honly : (writeOutputs rest).Only
              (Touches (fun address => address ≠ Mod.cgu + output.2) []) := by
            refine write_outputs_only fun other hother heq => hfirst ?_
            rw [← Nat.add_left_cancel heq]
            exact List.mem_map_of_mem hother
          rw [hhead]
          exact (regs_frame honly (not_not.mpr rfl) _).trans (Function.update_self _ _ _)

theorem spares_link_output {output : BitVec 32 × Nat} (houtput : output ∈ mscdOutputs) :
    SparesLink (.wr output.1 (Mod.cgu + output.2)) := by
  have hrange : ∀ output ∈ mscdOutputs, output.2 < 0x0080 := by decide
  have hlow := hrange output houtput
  simp only [SparesLink]
  omega

/-! ## Runs -/

/-- No event writes an output of the PCIe link. -/
theorem RuntimeEvent.program_spares_link {cgu : Cgu} (h : cgu.Settled) (event : RuntimeEvent) :
    (event.program version cgu).Only SparesLink := by
  cases event with
  | activate useCase =>
      exact activate_clocks_only h useCase.accepted trivial fun _ => by simp [SparesLink,
        cguGcr9RwAnaClockDivSel]
  | tune =>
      exact Only.bind (write_outputs_only fun _ => spares_link_output) fun _ => only_pure _

/-- The clocks stay settled, and the outputs stay as the tuning left them. -/
structure RuntimeState.Safe (state : RuntimeState) : Prop where
  settled : state.clocks.cgu.Settled
  keeps : state.KeepsMscd

/-- The outputs of the tuning lie below the register of the ADC clocks. -/
theorem mscd_output_ne_gcr9 {output : BitVec 32 × Nat} (houtput : output ∈ mscdOutputs) :
    Mod.cgu + output.2 ≠ Mod.cgu + cguGcr9RwAnaClockDivSel := by
  revert output
  decide

theorem RuntimeState.step_safe {state : RuntimeState} (h : state.Safe) (event : RuntimeEvent) :
    (state.step env version event).Safe := by
  cases event with
  | activate useCase =>
      have hsettled : ((RuntimeEvent.activate useCase).program version state.clocks.cgu).Yields
          fun result => result.2.Settled :=
        activate_clocks_settled h.settled useCase.accepted
      refine ⟨ClockState.after_of_yields hsettled, fun htuned output houtput => ?_⟩
      -- An activation writes nothing but the register of the ADC clocks.
      have honly : ((RuntimeEvent.activate useCase).program version state.clocks.cgu).Only
          (Touches (fun address => address = Mod.cgu + cguGcr9RwAnaClockDivSel) []) :=
        activate_clocks_only h.settled useCase.accepted trivial fun _ => rfl
      have hne := mscd_output_ne_gcr9 houtput
      exact (regs_frame honly hne state.clocks.board).trans (h.keeps htuned output houtput)
  | tune =>
      refine ⟨h.settled, fun _ => ?_⟩
      exact write_outputs_regs (by decide) state.clocks.board

/-- After `saa7231_cgu_init`, no activation of a use case and no tuning writes an output of the PCIe
link, and from the first tuning on its outputs keep the values that it wrote. -/
theorem clock_outputs_safe (env : Environment) (version : Fin 2) (verbose : Bool)
    (rootClk : CguRootclk) (board : Board) (events : List RuntimeEvent) :
    Each (RuntimeState.step env version)
        (fun state event => (event.program version state.clocks.cgu).Only SparesLink)
        ⟨.init env verbose rootClk board, false⟩ events ∧
      Always (RuntimeState.step env version) RuntimeState.KeepsMscd
        ⟨.init env verbose rootClk board, false⟩ events := by
  have hstart : RuntimeState.Safe ⟨.init env verbose rootClk board, false⟩ :=
    ⟨(ClockState.init_fresh env verbose rootClk board).settled,
      fun htuned => absurd htuned Bool.false_ne_true⟩
  have hvalid : Each (RuntimeState.step env version) (fun _ _ => True)
      ⟨.init env verbose rootClk board, false⟩ events := each_of_forall fun _ _ => trivial
  constructor
  · exact each_of_each hstart (fun _ event h _ => RuntimeState.step_safe h event)
      (fun _ event h _ => event.program_spares_link h.settled) hvalid
  · exact always_of_each hstart (fun _ h => h.keeps)
      (fun _ event h _ => RuntimeState.step_safe h event) hvalid

end Saa7231
