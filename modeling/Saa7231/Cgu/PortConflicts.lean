import Saa7231.Cgu.Runs

/-!
# Ports that cannot be used together

Two ports in each other's conflict mask may only be active together when their ADC presets can be
used together. `cgu_clkupdate_instance` looks for a conflict but returns 0 when it finds one, so the
check of `saa7231_activate_clocks` never fails. All ports keep the index 0, whose preset excludes
itself, so every activation of a port with an active port in its mask goes wrong
(`compatible_iff_clear`).
-/

namespace Saa7231

open Interaction Bus Program

/-- The port `other` is in the mask that `port` is checked against. -/
def ClkPort.ConflictsWith (port other : ClkPort) : Prop :=
  port.conflictMask.getLsbD other.number

instance (port other : ClkPort) : Decidable (port.ConflictsWith other) :=
  inferInstanceAs (Decidable (_ = true))

theorem ClkPort.not_conflicts_with_self (port : ClkPort) : ¬ port.ConflictsWith port := by
  cases port <;> decide

theorem ClkPort.conflicts_with_comm (port other : ClkPort) :
    port.ConflictsWith other ↔ other.ConflictsWith port := by
  unfold ClkPort.ConflictsWith
  cases port <;> cases other <;> decide

theorem ClkPort.number_injective {port other : ClkPort} (h : port.number = other.number) :
    port = other := by
  revert h
  cases port <;> cases other <;> decide

/-- The ADC preset of a port. -/
def Cgu.portAdc (cgu : Cgu) (version : Fin 2) (port : ClkPort) : Nat :=
  adcSel (cgu.portSetup port.number).index.toNat version

/-- Active ports in each other's conflict mask have ADC presets that can be used together. -/
def Cgu.Compatible (version : Fin 2) (cgu : Cgu) : Prop :=
  ∀ port other : ClkPort, port.ConflictsWith other → cgu.Uses port → cgu.Uses other →
    entry adcuseEx (cgu.portAdc version port) (cgu.portAdc version other) = 1

/-- An active port in the mask of the port has an ADC preset that excludes its own. -/
def Cgu.Excluded (version : Fin 2) (cgu : Cgu) (port : ClkPort) : Prop :=
  ∃ other : ClkPort, port.ConflictsWith other ∧ cgu.Uses other ∧
    entry adcuseEx (cgu.portAdc version port) (cgu.portAdc version other) ≠ 1

/-- An activation of an inactive port that is excluded returns an error and leaves the port
inactive. -/
def ClockCall.Refuses (env : Environment) (version : Fin 2) (state : ClockState)
    (call : ClockCall) : Prop :=
  ∀ mode port clkport, call = .activate mode port →
    cguGetclkInstance mode port = some (some clkport) → ¬ state.cgu.Uses clkport →
      state.cgu.Excluded version clkport →
        ((call.program version state.cgu).run (boardWorld env) state.board).1.1 ≠ 0 ∧
          ¬ (state.call env version call).cgu.Uses clkport

/-- The call does not activate an inactive port while a port in its mask is active. -/
def ClockCall.Clear (state : ClockState) (call : ClockCall) : Prop :=
  ∀ mode port clkport, call = .activate mode port →
    cguGetclkInstance mode port = some (some clkport) → ¬ state.cgu.Uses clkport →
      ∀ other : ClkPort, clkport.ConflictsWith other → ¬ state.cgu.Uses other

variable {env : Environment} {version : Fin 2} {cgu : Cgu} {state : ClockState}

/-! ## The ports of a settled unit -/

theorem Cgu.Settled.portAdc (h : cgu.Settled) (version : Fin 2) (port : ClkPort) :
    cgu.portAdc version port = 1 := by
  rw [Cgu.portAdc, h.index]
  revert version
  decide

/-- Since the preset of every port excludes itself, no two conflicting ports are compatible. -/
theorem Cgu.Settled.compatible_iff (h : cgu.Settled) :
    cgu.Compatible version ↔
      ∀ port other : ClkPort, port.ConflictsWith other → cgu.Uses port → ¬ cgu.Uses other := by
  have hentry : entry adcuseEx 1 1 = 0 := rfl
  simp only [Cgu.Compatible, h.portAdc, hentry]
  exact forall_congr' fun port => forall_congr' fun other => forall_congr' fun _ =>
    forall_congr' fun _ => ⟨fun h hother => absurd (h hother) Nat.zero_ne_one,
      fun h hother => absurd hother h⟩

theorem Cgu.activated_uses (cgu : Cgu) (port other : ClkPort) (adcIn : Nat → BitVec 32) :
    (cgu.activated port adcIn).Uses other ↔ other = port ∨ cgu.Uses other := by
  unfold Cgu.Uses
  by_cases heq : other = port
  · have hactive : ((cgu.activated port adcIn).portSetup port.number).active = 1 :=
      congrArg PortSetup.active (if_pos rfl)
    rw [heq]
    exact iff_of_true hactive (Or.inl rfl)
  · have hne : other.number ≠ port.number := fun h => heq (ClkPort.number_injective h)
    have hkept : (cgu.activated port adcIn).portSetup other.number = cgu.portSetup other.number :=
      if_neg hne
    simp only [hkept, heq, false_or]

theorem Cgu.deactivated_uses {status : ClkStatus} {port other : ClkPort}
    (h : ({ cgu.updatePort port fun setup => { setup with active := 0 } with
      clkStatus := status } : Cgu).Uses other) : cgu.Uses other := by
  unfold Cgu.Uses Cgu.updatePort at h
  dsimp only at h
  split at h
  · exact absurd h (by simp)
  · exact h

/-! ## Calls -/

/-- A deactivation activates nothing. -/
theorem ClockState.disable_uses {mode : Mode} {port : Nat} {other : ClkPort}
    (h : (state.call env version (.disable mode port)).cgu.Uses other) : state.cgu.Uses other := by
  rcases ClockState.disable_cases env version state mode port with hsame | ⟨clkport, status, hcgu⟩
  · rwa [hsame] at h
  · rw [hcgu] at h
    exact Cgu.deactivated_uses h

/-- The unit is settled and no two active ports conflict. -/
structure ClockState.Sound (version : Fin 2) (state : ClockState) : Prop where
  settled : state.cgu.Settled
  compatible : state.cgu.Compatible version

theorem ClockCall.keeps_sound (h : state.Sound version) {call : ClockCall}
    (hclear : call.Clear state) : (state.call env version call).Sound version := by
  have hsettled : (state.call env version call).cgu.Settled := call.step_settled h.settled version
  refine ⟨hsettled, hsettled.compatible_iff.mpr fun port other hconflict huses hother => ?_⟩
  have hapart := h.settled.compatible_iff.mp h.compatible
  cases call with
  | activate mode dmaport =>
      rcases ClockState.activate_cases h.settled mode dmaport with
        hsame | ⟨clkport, adcIn, hport, hidle, hcgu⟩
      · rw [hsame] at huses hother
        exact hapart port other hconflict huses hother
      · have hnone := hclear mode dmaport clkport rfl hport hidle
        rw [hcgu, Cgu.activated_uses] at huses hother
        -- Neither of two conflicting ports is the one that was activated.
        have hne : port ≠ clkport := by
          intro heq
          rw [heq] at hconflict
          cases hother with
          | inl hself =>
              rw [hself] at hconflict
              exact clkport.not_conflicts_with_self hconflict
          | inr huses' => exact hnone other hconflict huses'
        have hport := huses.resolve_left hne
        cases hother with
        | inl hself =>
            rw [hself] at hconflict
            exact hnone port ((ClkPort.conflicts_with_comm _ _).mp hconflict) hport
        | inr hother => exact hapart port other hconflict hport hother
  | disable mode dmaport =>
      exact hapart port other hconflict (ClockState.disable_uses huses)
        (ClockState.disable_uses hother)

/-- An activation next to a conflicting port goes wrong: the check does not refuse it. -/
theorem ClockCall.breaks_compatible (h : state.Sound version) {call : ClockCall}
    (hclear : ¬ call.Clear state) :
    ¬ (state.call env version call).cgu.Compatible version := by
  intro hcompatible
  refine hclear fun mode port clkport hcall hport hidle other hconflict hother => ?_
  have hsettled : (state.call env version call).cgu.Settled := call.step_settled h.settled version
  -- The activation succeeds, so both ports are active.
  obtain ⟨adcIn, hcgu⟩ := ClockState.activated env version h.settled hport hidle
  rw [hcall] at hsettled hcompatible
  refine hsettled.compatible_iff.mp hcompatible clkport other hconflict ?_ ?_
  · rw [hcgu, Cgu.activated_uses]
    exact Or.inl rfl
  · rw [hcgu, Cgu.activated_uses]
    exact Or.inr hother

/-! ## Runs -/

theorem ClockState.init_sound (env : Environment) (version : Fin 2) (verbose : Bool)
    (rootClk : CguRootclk) (board : Board) :
    (ClockState.init env verbose rootClk board).Sound version := by
  have hfresh := ClockState.init_fresh env verbose rootClk board
  refine ⟨hfresh.settled, fun port other _ huses => ?_⟩
  rw [Cgu.Uses, hfresh.ports] at huses
  exact absurd huses (by decide)

/-- Under the guard no activation has to be refused. -/
theorem ClockCall.Clear.refuses {call : ClockCall} (h : call.Clear state) :
    call.Refuses env version state := by
  rintro mode port clkport hcall hport hidle ⟨other, hconflict, hother, _⟩
  exact absurd hother (h mode port clkport hcall hport hidle other hconflict)

/-- A run keeps the active ports compatible, and refuses the activations that it has to, exactly
when no activation of an inactive port meets an active port in its conflict mask. -/
theorem compatible_iff_clear (env : Environment) (version : Fin 2) (verbose : Bool)
    (rootClk : CguRootclk) (board : Board) (calls : List ClockCall) :
    (Always (ClockState.call env version) (fun state => state.cgu.Compatible version)
        (.init env verbose rootClk board) calls ∧
      Each (ClockState.call env version) (fun state call => call.Refuses env version state)
        (.init env verbose rootClk board) calls) ↔
    Each (ClockState.call env version) (fun state call => call.Clear state)
      (.init env verbose rootClk board) calls := by
  have hstart := ClockState.init_sound env version verbose rootClk board
  have hvalid : Each (ClockState.call env version) (fun _ _ => True)
      (.init env verbose rootClk board) calls := each_of_forall fun _ _ => trivial
  have halways := always_iff_each (C := fun state call => call.Clear state) hstart
    (fun _ h => h.compatible) (fun _ _ h _ hclear => ClockCall.keeps_sound h hclear)
    (fun _ _ h _ hclear => ClockCall.breaks_compatible h hclear) hvalid
  constructor
  · exact fun h => halways.mp h.1
  · exact fun h => ⟨halways.mpr h, h.imp fun _ _ hclear => hclear.refuses⟩

/-- The audio port and the first digital port are activated together. -/
theorem audio_and_digital_active :
    ¬ Always (ClockState.call .plain 0) (fun state => state.cgu.Compatible 0)
      (.init .plain false .clkRoot54MHz .reset)
      [.activate .audioCapture streamPortAs2dLocal,
        .activate .digitalCapture streamPortTs2dDtv0] := by
  have hfresh := ClockState.init_fresh .plain false .clkRoot54MHz .reset
  have hidle : ∀ port, ¬ (ClockState.init .plain false .clkRoot54MHz .reset).cgu.Uses port := by
    intro port huses
    rw [Cgu.Uses, hfresh.ports] at huses
    exact absurd huses (by decide)
  have haccepted : cguGetclkInstance .audioCapture streamPortAs2dLocal = some (some .audio) := rfl
  obtain ⟨adcIn, haudio⟩ := ClockState.activated .plain 0 hfresh.settled haccepted (hidle .audio)
  rintro ⟨_, hfirst⟩
  refine ClockCall.breaks_compatible (ClockCall.keeps_sound
    (ClockState.init_sound .plain 0 false .clkRoot54MHz .reset)
    fun _ _ _ _ _ _ other _ => hidle other) ?_ hfirst.2
  intro hclear
  refine hclear .digitalCapture streamPortTs2dDtv0 .digital0 rfl rfl ?_ .audio (by decide) ?_
  · rw [haudio, Cgu.activated_uses]
    exact fun h => h.elim (by decide) (hidle .digital0)
  · rw [haudio, Cgu.activated_uses]
    exact Or.inl rfl

end Saa7231
