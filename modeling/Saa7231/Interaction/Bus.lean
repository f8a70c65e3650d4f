import Saa7231.Interaction.Program
import Mathlib.Data.Nat.Notation

/-!
# Register-bus programs

Programs that read and write 32-bit registers, wait, and perform further operations of an
extension `Ext`. A program over the bus alone is polymorphic in the extension, so the same
code serves every layer built over the bus. `WritesIn` bounds the registers a program can
write and the extension operations it can perform; with `Program.run_preserves` it gives the
frame rule for register files.
-/

namespace Interaction

/-- Register reads and writes, delays, and the operations of an extension. -/
inductive BusOp (Ext : Type) : Type where
  | rd (address : Nat)
  | wr (value : BitVec 32) (address : Nat)
  | delay (milliseconds : Nat)
  | extra (op : Ext)

/-- A read is answered by a register value; an extension operation by its own answer. -/
def BusAns {Ext : Type} (ExtAns : Ext → Type) : BusOp Ext → Type
  | .rd _ => BitVec 32
  | .wr _ _ => Unit
  | .delay _ => Unit
  | .extra op => ExtAns op

/-- Programs over the bus and an extension of it. -/
abbrev BusProgram {Ext : Type} (ExtAns : Ext → Type) : Type → Type :=
  Program (BusOp Ext) (BusAns ExtAns)

namespace Bus

variable {Ext : Type} {ExtAns : Ext → Type}

/-- Reads the register at an address. -/
def rd (address : Nat) : BusProgram ExtAns (BitVec 32) :=
  Program.perform (BusOp.rd address)

/-- Writes a value to the register at an address. -/
def wr (value : BitVec 32) (address : Nat) : BusProgram ExtAns Unit :=
  Program.perform (BusOp.wr value address)

/-- Waits. -/
def delay (milliseconds : Nat) : BusProgram ExtAns Unit :=
  Program.perform (BusOp.delay milliseconds)

/-- Performs an operation of the extension. -/
def extra (op : Ext) : BusProgram ExtAns (ExtAns op) :=
  Program.perform (BusOp.extra op)

/-- The operation writes registers of `A` only, and performs extension operations of `E`
only. -/
def WritesIn (A : Nat → Prop) (E : Ext → Prop) : BusOp Ext → Prop
  | .rd _ => True
  | .wr _ address => A address
  | .delay _ => True
  | .extra op => E op

variable {A : Nat → Prop} {E : Ext → Prop} {α : Type}

/-- A reading writes nothing. -/
@[simp] theorem only_rd (address : Nat) :
    (rd address : BusProgram ExtAns _).Only (WritesIn A E) :=
  ⟨trivial, fun _ => trivial⟩

/-- A write stays within the bound exactly if its address does. -/
@[simp] theorem only_wr (value : BitVec 32) (address : Nat) :
    (wr value address : BusProgram ExtAns _).Only (WritesIn A E) ↔ A address :=
  Program.only_perform _

/-- A delay writes nothing. -/
@[simp] theorem only_delay (milliseconds : Nat) :
    (delay milliseconds : BusProgram ExtAns _).Only (WritesIn A E) :=
  ⟨trivial, fun _ => trivial⟩

/-- The extension has a bound of its own. -/
@[simp] theorem only_extra (op : Ext) :
    (extra op : BusProgram ExtAns _).Only (WritesIn A E) ↔ E op :=
  Program.only_perform _

/-! Straight-line code is peeled one operation at a time. -/

@[simp] theorem only_rd_bind (address : Nat) (f : BitVec 32 → BusProgram ExtAns α) :
    (rd address >>= f).Only (WritesIn A E) ↔ ∀ value, (f value).Only (WritesIn A E) :=
  ⟨fun h => h.2, fun h => ⟨trivial, h⟩⟩

@[simp] theorem only_wr_bind (value : BitVec 32) (address : Nat)
    (f : Unit → BusProgram ExtAns α) :
    (wr value address >>= f).Only (WritesIn A E) ↔ A address ∧ (f ()).Only (WritesIn A E) :=
  ⟨fun h => ⟨h.1, h.2 ()⟩, fun h => ⟨h.1, fun _ => h.2⟩⟩

@[simp] theorem only_delay_bind (milliseconds : Nat) (f : Unit → BusProgram ExtAns α) :
    (delay milliseconds >>= f).Only (WritesIn A E) ↔ (f ()).Only (WritesIn A E) :=
  ⟨fun h => h.2 (), fun h => ⟨trivial, fun _ => h⟩⟩

@[simp] theorem only_extra_bind (op : Ext) (f : ExtAns op → BusProgram ExtAns α) :
    (extra op >>= f).Only (WritesIn A E) ↔ E op ∧ ∀ answer, (f answer).Only (WritesIn A E) :=
  Program.only_perform_bind

/-! The same for an arbitrary bound on the operations. -/

/-- A reading, and what follows for every value. -/
theorem rd_bind_only {P : BusOp Ext → Prop} {address : Nat} {f : BitVec 32 → BusProgram ExtAns α} :
    (rd address >>= f).Only P ↔ P (.rd address) ∧ ∀ value, (f value).Only P := Iff.rfl

/-- A write, and what follows. -/
theorem wr_bind_only {P : BusOp Ext → Prop} {value : BitVec 32} {address : Nat}
    {f : Unit → BusProgram ExtAns α} :
    (wr value address >>= f).Only P ↔ P (.wr value address) ∧ (f ()).Only P :=
  ⟨fun h => ⟨h.1, h.2 ()⟩, fun h => ⟨h.1, fun _ => h.2⟩⟩

/-- A delay, and what follows. -/
theorem delay_bind_only {P : BusOp Ext → Prop} {milliseconds : Nat}
    {f : Unit → BusProgram ExtAns α} :
    (delay milliseconds >>= f).Only P ↔ P (.delay milliseconds) ∧ (f ()).Only P :=
  ⟨fun h => ⟨h.1, h.2 ()⟩, fun h => ⟨h.1, fun _ => h.2⟩⟩

/-- A reading alone. -/
theorem rd_only {P : BusOp Ext → Prop} {address : Nat} :
    (rd address : BusProgram ExtAns _).Only P ↔ P (.rd address) :=
  Program.only_perform _

/-- A write alone. -/
theorem wr_only {P : BusOp Ext → Prop} {value : BitVec 32} {address : Nat} :
    (wr value address : BusProgram ExtAns _).Only P ↔ P (.wr value address) :=
  Program.only_perform _

/-- Every access to a register and every delay is allowed. -/
structure OnBus (P : BusOp Ext → Prop) : Prop where
  rd : ∀ address, P (.rd address)
  wr : ∀ value address, P (.wr value address)
  delay : ∀ milliseconds, P (.delay milliseconds)

/-- A reading returns any value. -/
@[simp] theorem yields_rd (address : Nat) {Q : BitVec 32 → Prop} :
    (rd address : BusProgram ExtAns _).Yields Q ↔ ∀ value, Q value := Iff.rfl

/-- A write returns nothing. -/
@[simp] theorem yields_wr (value : BitVec 32) (address : Nat) {Q : Unit → Prop} :
    (wr value address : BusProgram ExtAns _).Yields Q ↔ Q () :=
  ⟨fun h => h (), fun h _ => h⟩

/-- A delay returns nothing. -/
@[simp] theorem yields_delay (milliseconds : Nat) {Q : Unit → Prop} :
    (delay milliseconds : BusProgram ExtAns _).Yields Q ↔ Q () :=
  ⟨fun h => h (), fun h _ => h⟩

/-- Wider bounds allow more operations. -/
theorem WritesIn.mono {A' : Nat → Prop} {E' : Ext → Prop} {op : BusOp Ext}
    (h : WritesIn A E op) (hA : ∀ address, A address → A' address)
    (hE : ∀ op, E op → E' op) : WritesIn A' E' op := by
  cases op with
  | rd | delay => trivial
  | wr value address => exact hA address h
  | extra op => exact hE op h

end Bus

end Interaction
