import Saa7231.Hardware.Frame

/-!
# A program as a patch of the registers

The hardware answers a read from its environment, so nothing that a program does depends on
what it wrote before. On any registers a program returns one value, adds the same to the
records of the board, and patches the registers with the same writes (`run_patch`).
-/

namespace Saa7231

open Interaction Bus

/-- The registers with some of them overwritten. -/
def patch (writes : Nat → Option (BitVec 32)) (regs : Nat → BitVec 32) : Nat → BitVec 32 :=
  fun address => (writes address).getD (regs address)

/-- The board with other registers. -/
def Board.withRegs (board : Board) (regs : Nat → BitVec 32) : Board :=
  { board with regs := regs }

variable {A B : Nat → Prop} {writes writes' : Nat → Option (BitVec 32)} {regs : Nat → BitVec 32}

/-- A patch leaves the registers outside it alone. -/
theorem patch_frame (hwrites : ∀ address, writes address ≠ none → A address) {address : Nat}
    (hout : ¬ A address) : patch writes regs address = regs address := by
  have hnone : writes address = none := by
    by_contra hsome
    exact hout (hwrites address hsome)
  show (writes address).getD (regs address) = regs address
  rw [hnone]
  rfl

/-- Patches of different registers commute. -/
theorem patch_comm (hwrites : ∀ address, writes address ≠ none → A address)
    (hwrites' : ∀ address, writes' address ≠ none → B address)
    (hdisjoint : ∀ address, A address → ¬ B address) :
    patch writes (patch writes' regs) = patch writes' (patch writes regs) := by
  funext address
  by_cases hin : A address
  · rw [patch_frame hwrites' (hdisjoint address hin)]
    show (writes address).getD (patch writes' regs address) = (writes address).getD (regs address)
    rw [patch_frame hwrites' (hdisjoint address hin)]
  · rw [patch_frame hwrites hin]
    show (writes' address).getD (regs address) =
      (writes' address).getD (patch writes regs address)
    rw [patch_frame hwrites hin]

/-- One patch after another is a patch. -/
theorem patch_patch : patch writes' (patch writes regs) =
    patch (fun address => (writes' address).or (writes address)) regs := by
  funext address
  show (writes' address).getD ((writes address).getD (regs address)) =
    ((writes' address).or (writes address)).getD (regs address)
  cases writes' address <;> rfl

/-- What one operation does to the registers does not depend on them. -/
theorem after_patch (env : Environment) {R : List Record} {op : BusOp BoardOp}
    (hop : Touches A R op) (board : Board) :
    ∃ writes : Nat → Option (BitVec 32), (∀ address, writes address ≠ none → A address) ∧
      ∀ regs, (boardWorld env).after op (board.withRegs regs) =
        ((boardWorld env).after op board).withRegs (patch writes regs) := by
  cases op with
  | wr value target =>
      refine ⟨Function.update (fun _ => none) target (some value), ?_, fun regs => ?_⟩
      · intro address hsome
        by_cases heq : address = target
        · exact heq ▸ hop
        · exact absurd (Function.update_of_ne heq _ _) hsome
      · have hregs : Function.update regs target value =
            patch (Function.update (fun _ => none) target (some value)) regs := by
          funext address
          unfold patch
          by_cases heq : address = target
          · rw [heq, Function.update_self, Function.update_self]
            rfl
          · rw [Function.update_of_ne heq, Function.update_of_ne heq]
            rfl
        exact congrArg (board.write value target).withRegs hregs
  | rd | delay => exact ⟨fun _ => none, fun _ h => absurd rfl h, fun _ => rfl⟩
  | extra op =>
      refine ⟨fun _ => none, fun _ h => absurd rfl h, fun _ => ?_⟩
      cases op <;> rfl

/-- No answer depends on the registers. -/
theorem answer_with_regs (env : Environment) (op : BusOp BoardOp) (board : Board)
    (regs : Nat → BitVec 32) :
    (boardWorld env).answer op (board.withRegs regs) = (boardWorld env).answer op board := by
  cases op with
  | extra op => cases op <;> rfl
  | _ => rfl

/-- A program returns the same value, leaves the same records and makes the same writes on any
registers. -/
theorem run_patch {α : Type} (env : Environment) {R : List Record} {program : BoardProgram α}
    (honly : program.Only (Touches A R)) (board : Board) :
    ∃ writes : Nat → Option (BitVec 32), (∀ address, writes address ≠ none → A address) ∧
      ∀ regs, program.run (boardWorld env) (board.withRegs regs) =
        ((program.run (boardWorld env) board).1,
          (program.run (boardWorld env) board).2.withRegs (patch writes regs)) := by
  induction program generalizing board with
  | ret value => exact ⟨fun _ => none, fun _ h => absurd rfl h, fun _ => rfl⟩
  | call op next ih =>
      obtain ⟨first, hfirst, hafter⟩ := after_patch env honly.1 board
      obtain ⟨later, hlater, hrest⟩ :=
        ih _ (honly.2 ((boardWorld env).answer op board)) ((boardWorld env).after op board)
      -- Where both write, the later write counts.
      refine ⟨fun address => (later address).or (first address), ?_, fun regs => ?_⟩
      · intro address hsome
        by_cases hnone : later address = none
        · refine hfirst address fun hfirstNone => hsome ?_
          show (later address).or (first address) = none
          rw [hnone, hfirstNone]
          rfl
        · exact hlater address hnone
      · show (next ((boardWorld env).answer op (board.withRegs regs))).run (boardWorld env)
          ((boardWorld env).after op (board.withRegs regs)) = _
        rw [answer_with_regs, hafter, hrest, patch_patch]
        rfl

end Saa7231
