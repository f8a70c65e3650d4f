import Saa7231.Lgs8gxx.Footprint

/-!
# A register that keeps its value

`Register` is what the driver relies on of a control register: a read that goes through brings its
value, a write that goes through sets it, a write that fails either arrives or does not, and nothing
else changes it. Programs that reach other registers only leave it alone.
-/

namespace Saa7231

open Interaction Program

section Register

variable {σ α : Type} {config : Lgs8gxxConfig} {world : World LgsOp LgsAns σ}
  {reg : BitVec 8} {value : σ → BitVec 8}

/-- In the world, `value` is the value of the register. -/
structure Register (config : Lgs8gxxConfig) (world : World LgsOp LgsAns σ) (reg : BitVec 8)
    (value : σ → BitVec 8) : Prop where
  read : ∀ state, (world.answer (.i2cTransfer (readMsgs config reg)) state).1 = 2 →
    readByte (world.answer (.i2cTransfer (readMsgs config reg)) state).2 = value state
  keep : ∀ state, value (world.after (.i2cTransfer (readMsgs config reg)) state) = value state
  write : ∀ data state, (world.answer (.i2cTransfer [writeMsg config reg data]) state).1 = 1 →
    value (world.after (.i2cTransfer [writeMsg config reg data]) state) = data
  lost : ∀ data state, value (world.after (.i2cTransfer [writeMsg config reg data]) state) = data ∨
    value (world.after (.i2cTransfer [writeMsg config reg data]) state) = value state
  frame : ∀ op state, Apart config reg op → value (world.after op state) = value state

/-- Every read of the register goes through. -/
def ReadsArrive (config : Lgs8gxxConfig) (world : World LgsOp LgsAns σ) (reg : BitVec 8) : Prop :=
  ∀ state, (world.answer (.i2cTransfer (readMsgs config reg)) state).1 = 2

/-- Every write to the register goes through. -/
def WritesArrive (config : Lgs8gxxConfig) (world : World LgsOp LgsAns σ) (reg : BitVec 8) : Prop :=
  ∀ data state, (world.answer (.i2cTransfer [writeMsg config reg data]) state).1 = 1

/-- A program that reaches other registers only. -/
theorem Register.unreached (h : Register config world reg value) {program : LgsProgram α}
    (hapart : program.Only (Apart config reg)) (state : σ) :
    value (program.run world state).2 = value state :=
  run_preserves hapart value (fun op s hop => h.frame op s hop) state

/-- A read that arrives. -/
theorem Register.read_run (h : Register config world reg value)
    (harrives : ReadsArrive config world reg) (p : BitVec 8) (state : σ) :
    ((lgs8gxxReadReg config reg p).run world state).1 = (0, value state) ∧
      value ((lgs8gxxReadReg config reg p).run world state).2 = value state := by
  refine ⟨?_, h.keep state⟩
  show (if (world.answer (.i2cTransfer (readMsgs config reg)) state).1 ≠ 2 then ((-1 : Int), p)
    else (0, readByte (world.answer (.i2cTransfer (readMsgs config reg)) state).2)) = _
  rw [if_neg (not_not_intro (harrives state)), h.read state (harrives state)]

theorem Register.write_run (h : Register config world reg value) (data : BitVec 8) (state : σ) :
    value ((lgs8gxxWriteReg config reg data).run world state).2 = data ∨
      value ((lgs8gxxWriteReg config reg data).run world state).2 = value state :=
  h.lost data state

/-- The result of a write says whether it went through. -/
theorem Register.written (h : Register config world reg value) {data : BitVec 8} {state : σ}
    (hret : ((lgs8gxxWriteReg config reg data).run world state).1 = 0) :
    value ((lgs8gxxWriteReg config reg data).run world state).2 = data := by
  refine h.write data state ?_
  by_contra hfail
  exact absurd ((if_pos hfail).symm.trans hret) (by decide)

end Register

end Saa7231
