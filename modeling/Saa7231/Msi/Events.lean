import Saa7231.Hardware.AddressMap
import Saa7231.Interaction.Bus

/-!
# Interrupt events (`saa7231_msi.c`, `saa7231_irq_handler`)

The event table has one entry for each of the 128 vectors. Enable and status bits are packed
in four words of 32, with separate registers to set and to clear them. The code is generic in
what a handler is: it only stores handlers and calls them.
-/

namespace Saa7231

open Interaction Bus

def saa7231MsiVectors : Nat := 128
def saa7231MsiRegs : Nat := 128
def saa7231MsiLoops : Nat := 4
def saa7231RegWidth : Nat := 32
def defaultSaa7231IntaPolarity : BitVec 32 := 0

/-- `enum saa7231_edge`. -/
inductive Edge where
  | rising
  | falling
  | any
  deriving DecidableEq

/-- `struct saa7231_irq_entry`; a `NULL` handler is `none`. -/
structure IrqEntry (H : Type) where
  vector : Nat
  handler : Option H

/-- The event table and the number of handlers of `struct saa7231_dev`. -/
structure Events (H : Type) where
  eventHandler : Nat → IrqEntry H
  handlers : BitVec 8

/-! ## Enabling vectors

These functions only use the bus. `bug` is what a `BUG_ON` does. -/

section Vectors

variable {Ext : Type} {ExtAns : Ext → Type} {H : Type}

/-- `saa7231_vector_ctl`. -/
def vectorCtl (vector : Nat) (ctl : Bool) : BusProgram ExtAns Unit := do
  let tmp := 1#32 <<< (vector % 32)
  let reg ← rd (Mod.msi + msiIntEna (vector / 32))
  if ctl then
    wr (reg ||| tmp) (Mod.msi + msiIntEnaSet (vector / 32))
  else
    wr (reg ||| tmp) (Mod.msi + msiIntEnaClr (vector / 32))

/-- The edge bits of a vector configuration. -/
def Edge.config : Edge → BitVec 32
  | .falling => 0x02000000
  | .any => 0x03000000
  | .rising => 0x01000000

/-- `saa7231_setup_vector`. -/
def setupVector (bug : BusProgram ExtAns Unit) (vector : Nat) (edge : Edge) :
    BusProgram ExtAns Unit := do
  let _checked ← if vector > saa7231MsiVectors then bug else pure ()
  let config ← rd (Mod.msi + msiConfig vector)
  wr ((config &&& 0xfcffffff) ||| edge.config) (Mod.msi + msiConfig vector)
  vectorCtl vector true

/-- `saa7231_add_irqevent`. -/
def addIrqevent (bug : BusProgram ExtAns Unit) (events : Events H) (vector : Nat) (edge : Edge)
    (handler : Option H) : BusProgram ExtAns (Int × Events H) := do
  setupVector bug vector edge
  return (0, {
    eventHandler := fun index =>
      if index = vector then ⟨vector, handler⟩ else events.eventHandler index
    handlers := events.handlers + 1 })

/-- `saa7231_remove_irqevent`. -/
def removeIrqevent (events : Events H) (vector : Nat) : BusProgram ExtAns (Int × Events H) := do
  if (events.eventHandler vector).handler.isSome then
    vectorCtl vector false
    return (0, {
      eventHandler := fun index =>
        if index = vector then ⟨0, none⟩ else events.eventHandler index
      handlers := events.handlers - 1 })
  else
    return (0, events)

/-- An addition replaces the entry of its vector. -/
theorem add_irqevent_yields (bug : BusProgram ExtAns Unit) (events : Events H) (vector : Nat)
    (edge : Edge) (handler : Option H) :
    (addIrqevent bug events vector edge handler).Yields fun result => ∀ index,
      result.2.eventHandler index =
        if index = vector then ⟨vector, handler⟩ else events.eventHandler index := by
  simp only [addIrqevent, Program.yields_bind, Program.yields_pure]
  exact Program.Yields.of_forall fun _ _ => trivial

/-- A removal clears the entry of its vector when it has a handler. -/
theorem remove_irqevent_yields (events : Events H) (vector : Nat) :
    (removeIrqevent events vector : BusProgram ExtAns _).Yields fun result => ∀ index,
      result.2.eventHandler index =
        if index = vector ∧ (events.eventHandler vector).handler.isSome = true then ⟨0, none⟩
        else events.eventHandler index := by
  simp only [removeIrqevent, Program.yields_ite, Program.yields_bind, Program.yields_pure]
  refine ⟨fun hsome => Program.Yields.of_forall fun _ index => ?_, fun hnone index => ?_⟩
  · simp only [hsome, and_true]
  · simp only [hnone, and_false, if_false, Bool.false_eq_true]

end Vectors

/-! ## Initialisation and dispatch -/

/-- Operations of the interrupt code beside register accesses. -/
inductive MsiOp (H : Type) where
  /-- A `kzalloc`; the answer says whether it succeeded. -/
  | kzalloc
  /-- A `BUG_ON` whose condition holds. -/
  | bug
  /-- A call of the function pointer of an event with its vector. -/
  | callHandler (handler : Option H) (vector : Nat)

def MsiAns (H : Type) : MsiOp H → Type
  | .kzalloc => Bool
  | _ => Unit

/-- Programs of the interrupt code. -/
abbrev MsiProgram (H : Type) : Type → Type := BusProgram (MsiAns H)

section Dispatch

variable {H : Type}

def MsiProgram.kzalloc : MsiProgram H Bool := Bus.extra MsiOp.kzalloc
def MsiProgram.bug : MsiProgram H Unit := Bus.extra MsiOp.bug
def callHandler (handler : Option H) (vector : Nat) : MsiProgram H Unit :=
  Bus.extra (MsiOp.callHandler handler vector)

/-- Writes a value unless it is zero. -/
def wrNonzero (value : BitVec 32) (address : Nat) : MsiProgram H Unit :=
  if value ≠ 0 then wr value address else pure ()

/-- The body of the loop of `saa7231_msi_init` that clears what is enabled and pending. -/
def msiClear (i : Nat) : MsiProgram H Unit := do
  let enable ← rd (Mod.msi + msiIntEna i)
  let status ← rd (Mod.msi + msiIntStatus i)
  wrNonzero enable (Mod.msi + msiIntEnaClr i)
  wrNonzero status (Mod.msi + msiIntStatusClr i)

/-- The test of the last loop of `saa7231_msi_init` over the bits of a word. -/
def resetFailed (enable status : BitVec 32) : Bool :=
  (List.range saa7231RegWidth).any fun j =>
    (enable &&& (1#32 <<< j)) &&& (status &&& (1#32 <<< j)) != 0

/-- The last loop of `saa7231_msi_init` from word `i` on: whether the reset worked. -/
def msiCheckReset : Nat → Nat → MsiProgram H Bool
  | _, 0 => pure true
  | i, n + 1 => do
      let enable ← rd (Mod.msi + msiIntEna i)
      let status ← rd (Mod.msi + msiIntStatus i)
      if resetFailed enable status then
        return false
      else
        msiCheckReset (i + 1) n

/-- `saa7231_msi_init`. The module identification is read and only reported. -/
def msiInit (events : Events H) : MsiProgram H (Int × Events H) := do
  if !(← MsiProgram.kzalloc) then
    return (-enomem, events)
  if !(← MsiProgram.kzalloc) then
    return (-enomem, events)
  let events := { events with eventHandler := fun _ => ⟨0, none⟩ }
  wr 0x01 (Mod.msi + msiSwRst)
  delay 20
  let _id ← rd (Mod.msi + msiModuleId)
  wr 0x00 (Mod.msi + msiDelayTimer)
  wr defaultSaa7231IntaPolarity (Mod.msi + msiIntaPolarity)
  Program.loop saa7231MsiRegs (fun i _ => wr 0x01000000 (Mod.msi + msiConfig i)) ()
  Program.loop saa7231MsiLoops (fun i _ => msiClear i) ()
  delay 5
  if ← msiCheckReset 0 saa7231MsiLoops then
    return (0, { events with handlers := 0 })
  else
    return (-1, events)

/-! ### The interrupt handler (`saa7231_drv.c`) -/

/-- The array `status[4]`. -/
structure Status where
  word0 : BitVec 32
  word1 : BitVec 32
  word2 : BitVec 32
  word3 : BitVec 32
  deriving DecidableEq

/-- `status[i]`. -/
def Status.word (status : Status) : Nat → BitVec 32
  | 0 => status.word0
  | 1 => status.word1
  | 2 => status.word2
  | 3 => status.word3
  | _ => 0

/-- `irqreturn_t`. -/
inductive IrqReturn where
  | none
  | handled
  deriving DecidableEq

/-- `SAA7231_IRQNONE`. -/
def Status.irqNone (status : Status) : Bool :=
  (status.word 0 ||| status.word 1 ||| status.word 2 ||| status.word 3) == 0

/-- `SAA7231_UNPLUGD`. -/
def Status.unplugged (status : Status) : Bool :=
  status.word 0 == 0xffffffff && status.word 1 == 0xffffffff && status.word 2 == 0xffffffff &&
    status.word 3 == 0xffffffff

/-- Reads the four status words. -/
def readStatus : MsiProgram H Status := do
  let status0 ← rd (Mod.msi + msiIntStatus 0)
  let status1 ← rd (Mod.msi + msiIntStatus 1)
  let status2 ← rd (Mod.msi + msiIntStatus 2)
  let status3 ← rd (Mod.msi + msiIntStatus 3)
  return ⟨status0, status1, status2, status3⟩

/-- The access-violation branch of the handler. -/
def clearViolation (status : Status) : MsiProgram H Status := do
  if status.word 1 &&& 0x100000 ≠ 0 then
    let dcsStat ← rd (Mod.dcsn + dcsnIntStatus)
    let _dcsAddr ← rd (Mod.dcsn + dcsnAddr)
    wr dcsStat (Mod.dcsn + dcsnIntClrStatus)
    return { status with word1 := status.word 1 &&& ~~~0x100000 }
  else
    return status

/-- The call of an event that is registered under its own vector. -/
def dispatch (event : IrqEntry H) (vector : Nat) : MsiProgram H Unit :=
  if event.vector = vector then callHandler event.handler vector else pure ()

/-- The body of the inner loop of the handler, for bit `j` of word `i`. -/
def irqVisit (events : Events H) (i j : Nat) (status : Status) : MsiProgram H Status := do
  if (status.word i >>> j) &&& 0x1 ≠ 0 then
    let vector := i * 32 + j
    wr (status.word i) (Mod.msi + msiIntStatusClr i)
    let status ← clearViolation status
    dispatch (events.eventHandler vector) vector
    return status
  else
    return status

/-- The handler after it has read the status words. -/
def irqService (events : Events H) (status : Status) : MsiProgram H IrqReturn := do
  if status.irqNone then
    return .none
  if status.unplugged then
    return .none
  let _status ← Program.loop saa7231MsiLoops
    (fun i status => Program.loop 32 (fun j status => irqVisit events i j status) status) status
  return .handled

/-- `saa7231_irq_handler`. -/
def irqHandler (events : Events H) : MsiProgram H IrqReturn := do
  let status ← readStatus
  irqService events status

end Dispatch

end Saa7231
