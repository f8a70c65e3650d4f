import Saa7231.Interaction.PackedBits
import Saa7231.Msi.Events
import Mathlib.Tactic.IntervalCases

/-!
# The interrupt controller

Four words of pending bits and four of enable bits. A write to `MSI_INT_STATUS_CLR` or
`MSI_INT_ENA_CLR` clears the bits that are ones in the written value, a write to
`MSI_INT_ENA_SET` sets them, and the status and enable registers read the bits back. The trace
keeps the raises of the hardware and the calls of handlers.
-/

namespace Saa7231

open Interaction Bus

/-- What a register of the controller does. -/
inductive MsiReg where
  | status (word : Nat)
  | statusClr (word : Nat)
  | ena (word : Nat)
  | enaClr (word : Nat)
  | enaSet (word : Nat)
  | other
  deriving DecidableEq

/-- The register at an address. -/
def msiReg (address : Nat) : MsiReg :=
  let word (base : Nat) := (address - Mod.msi - base) / 4
  if address < Mod.msi + msiIntStatus 0 then .other
  else if address < Mod.msi + msiIntStatus 4 then .status (word (msiIntStatus 0))
  else if address < Mod.msi + msiIntStatusClr 4 then .statusClr (word (msiIntStatusClr 0))
  else if address < Mod.msi + msiIntEna 0 then .other
  else if address < Mod.msi + msiIntEna 4 then .ena (word (msiIntEna 0))
  else if address < Mod.msi + msiIntEnaClr 4 then .enaClr (word (msiIntEnaClr 0))
  else if address < Mod.msi + msiIntEnaSet 4 then .enaSet (word (msiIntEnaSet 0))
  else .other

/-- What happens to the events of the controller: the hardware raises a vector, the code calls
the handler of a vector. -/
inductive MsiEvent (H : Type) where
  | raised (vector : Nat)
  | called (handler : Option H) (vector : Nat)

/-- The state of the controller. The latest event of the trace comes first. -/
structure Controller (H : Type) where
  pending : Nat → BitVec 32
  enabled : Nat → BitVec 32
  requests : Nat
  bugs : Nat
  trace : List (MsiEvent H)

/-- The answers that the controller does not determine: readings of other registers, and which
requests for memory are granted. -/
structure MsiEnvironment where
  reading : Nat → BitVec 32
  granted : Nat → Bool

/-- An environment that grants every request. -/
def MsiEnvironment.plain : MsiEnvironment where
  reading := fun _ => 0
  granted := fun _ => true

variable {H : Type}

/-- A controller without pending or enabled vectors. -/
def Controller.reset : Controller H where
  pending := fun _ => 0
  enabled := fun _ => 0
  requests := 0
  bugs := 0
  trace := []

/-- A write to a register. -/
def Controller.write (controller : Controller H) (value : BitVec 32) (address : Nat) :
    Controller H :=
  match msiReg address with
  | .statusClr word =>
      { controller with pending := PackedBits.clearBits controller.pending word value }
  | .enaClr word =>
      { controller with enabled := PackedBits.clearBits controller.enabled word value }
  | .enaSet word =>
      { controller with enabled := PackedBits.setBits controller.enabled word value }
  | .status _ | .ena _ | .other => controller

/-- The hardware raises a vector. -/
def Controller.raise (controller : Controller H) (vector : Nat) : Controller H :=
  { controller with
    pending := PackedBits.setBits controller.pending (vector / 32) (1#32 <<< (vector % 32))
    trace := .raised vector :: controller.trace }

/-- A handler is called. -/
def Controller.call (controller : Controller H) (handler : Option H) (vector : Nat) :
    Controller H :=
  { controller with trace := .called handler vector :: controller.trace }

/-- The answers and effects of the operations. -/
def msiWorld (env : MsiEnvironment) :
    World (BusOp (MsiOp H)) (BusAns (MsiAns H)) (Controller H) where
  answer op controller := match op with
    | .rd address => match msiReg address with
      | .status word => controller.pending word
      | .ena word => controller.enabled word
      | _ => env.reading address
    | .wr _ _ => ()
    | .delay _ => ()
    | .extra op => match op with
      | .kzalloc => env.granted controller.requests
      | .bug | .callHandler _ _ => ()
  after op controller := match op with
    | .rd _ | .delay _ => controller
    | .wr value address => controller.write value address
    | .extra op => match op with
      | .kzalloc => { controller with requests := controller.requests + 1 }
      | .bug => { controller with bugs := controller.bugs + 1 }
      | .callHandler handler vector => controller.call handler vector

/-! ## The addresses of the registers -/

section Decode

variable {word : Nat}

/-- The status of a word has its own address. -/
theorem msi_reg_status (hword : word < 4) :
    msiReg (Mod.msi + msiIntStatus word) = .status word := by
  interval_cases word <;> rfl

/-- So has the clear of the status. -/
theorem msi_reg_status_clr (hword : word < 4) :
    msiReg (Mod.msi + msiIntStatusClr word) = .statusClr word := by
  interval_cases word <;> rfl

/-- So has the mask. -/
theorem msi_reg_ena (hword : word < 4) : msiReg (Mod.msi + msiIntEna word) = .ena word := by
  interval_cases word <;> rfl

/-- So has the clear of the mask. -/
theorem msi_reg_ena_clr (hword : word < 4) :
    msiReg (Mod.msi + msiIntEnaClr word) = .enaClr word := by
  interval_cases word <;> rfl

/-- So has its set. -/
theorem msi_reg_ena_set (hword : word < 4) :
    msiReg (Mod.msi + msiIntEnaSet word) = .enaSet word := by
  interval_cases word <;> rfl

/-- The configuration registers of the vectors are none of these. -/
theorem msi_reg_config {vector : Nat} (hvector : vector < 128) :
    msiReg (Mod.msi + msiConfig vector) = .other := by
  unfold msiReg
  rw [if_pos]
  unfold msiConfig msiIntStatus
  omega

/-- A write to any other register does not change the controller. -/
theorem Controller.write_other (controller : Controller H) (value : BitVec 32) {address : Nat}
    (hother : msiReg address = .other) : controller.write value address = controller := by
  unfold Controller.write
  rw [hother]

end Decode

/-! ## Running single operations -/

section Run

variable (env : MsiEnvironment) (controller : Controller H)

/-- A reading is answered by the controller. -/
theorem msi_run_rd (address : Nat) :
    (rd address : MsiProgram H _).run (msiWorld env) controller =
      ((msiWorld (H := H) env).answer (.rd address) controller, controller) := (rfl)

@[simp] theorem msi_run_wr (value : BitVec 32) (address : Nat) :
    (wr value address : MsiProgram H _).run (msiWorld env) controller =
      ((), controller.write value address) := (rfl)

@[simp] theorem msi_run_delay (milliseconds : Nat) :
    (delay milliseconds : MsiProgram H _).run (msiWorld env) controller = ((), controller) := (rfl)

@[simp] theorem msi_run_kzalloc :
    (MsiProgram.kzalloc : MsiProgram H _).run (msiWorld env) controller =
      (env.granted controller.requests,
        { controller with requests := controller.requests + 1 }) := (rfl)

/-- The status shows what is pending. -/
theorem msi_run_rd_status {word : Nat} (hword : word < 4) :
    (rd (Mod.msi + msiIntStatus word) : MsiProgram H _).run (msiWorld env) controller =
      (controller.pending word, controller) := by
  rw [msi_run_rd]
  show (match msiReg _ with | .status word => _ | .ena word => _ | _ => _, _) = _
  rw [msi_reg_status hword]
  rfl

/-- The mask shows what is enabled. -/
theorem msi_run_rd_ena {word : Nat} (hword : word < 4) :
    (rd (Mod.msi + msiIntEna word) : MsiProgram H _).run (msiWorld env) controller =
      (controller.enabled word, controller) := by
  rw [msi_run_rd]
  show (match msiReg _ with | .status word => _ | .ena word => _ | _ => _, _) = _
  rw [msi_reg_ena hword]
  rfl

end Run

end Saa7231
