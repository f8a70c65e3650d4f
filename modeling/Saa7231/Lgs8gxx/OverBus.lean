import Saa7231.I2c.Prompt
import Saa7231.Interaction.Implement
import Saa7231.Lgs8gxx.Footprint
import Saa7231.Lgs8gxx.Report

/-!
# The demodulator driver over the I2C master

The transfers of the demodulator driver are carried out by `saa7231_i2c_xfer`. `program_over_bus`
says that a run of any program of the driver, with delays of any length on the bus, returns what the
device behind the bus returns, as long as every transfer returns `num`.
-/

namespace Saa7231

open Interaction Bus Program

/-- How the operations of the driver are carried out. The firmware is what `request_firmware`
answers. -/
def overBus (i2c : I2c) (firmware : Except Int (List (BitVec 8))) :
    (op : LgsOp) → I2cProgram (LgsAns op)
  | .i2cTransfer msgs => i2cXfer i2c msgs
  | .msleep milliseconds => delay milliseconds
  | .usleepRange least _ => extra (.udelay least)
  | .requestFirmware => pure firmware
  | .releaseFirmware => pure ()

variable {τ α : Type} {i2c : I2c} {target : I2cTarget τ}
  {firmware : Except Int (List (BitVec 8))} {config : Lgs8gxxConfig}

/-- The driver's operations on a device that takes part in every transfer. -/
def targetWorld (target : I2cTarget τ) (firmware : Except Int (List (BitVec 8))) :
    World LgsOp LgsAns τ where
  answer op state := match op with
    | .i2cTransfer msgs => (msgs.length, (target.transfer msgs state).1)
    | .requestFirmware => firmware
    | .msleep _ | .usleepRange _ _ | .releaseFirmware => ()
  after op state := match op with
    | .i2cTransfer msgs => (target.transfer msgs state).2
    | .msleep _ | .usleepRange _ _ | .requestFirmware | .releaseFirmware => state

/-- The bus can carry the transfer: the addresses have seven bits, and the last message has a byte
for the STOP. -/
def Carried : LgsOp → Prop
  | .i2cTransfer msgs =>
      (∀ msg ∈ msgs, msg.addr < 128) ∧ ∃ hne : msgs ≠ [], (msgs.getLast hne).buf ≠ []
  | .msleep _ | .usleepRange _ _ | .requestFirmware | .releaseFirmware => True

/-- The line is idle, and its device is in the state. -/
def Line.Holds (line : Line τ) (state : τ) : Prop := line.device = state ∧ line.path.unread = []

/-- A block that pushes no word and takes no byte. -/
theorem Line.Holds.quiet {start finish : Line τ} {state : τ} {steps : List I2cStep}
    (h : start.Holds state) (hwired : Wired i2c target start steps finish)
    (hquiet : ∀ step ∈ steps, Quiet i2c step.1) : finish.Holds state := by
  obtain ⟨hsame, hdevice⟩ := wired_quiet hwired hquiet
  exact ⟨hdevice.trans h.1, hsame.unread.trans h.2⟩

/-- The transfers of the master refine those of the device. -/
theorem over_bus_refines (i2c : I2c) (target : I2cTarget τ)
    (firmware : Except Int (List (BitVec 8))) :
    Refines (overBus i2c firmware) (Wired i2c target) (targetWorld target firmware) Line.Holds
      Carried TransferAcknowledged where
  cut := wired_append
  rests := fun hmoves hshows => hshows.quiet hmoves fun step hstep => absurd hstep List.not_mem_nil
  block := by
    intro op answer block start finish state hcarried hgood hblock hwired hshows
    cases op with
    | i2cTransfer msgs =>
        obtain ⟨hseven, hne, hlast⟩ := hcarried
        obtain ⟨result, msgs'⟩ := answer
        obtain rfl : result = msgs.length := hgood
        obtain ⟨rfl, rfl⟩ := hshows.1
        obtain ⟨hmsgs, hdevice, hclean⟩ := xfer_refines hseven hne hlast hblock hwired hshows.2
        exact ⟨Prod.ext rfl hmsgs, hdevice, hclean⟩
    | msleep milliseconds =>
        obtain rfl := produces_perform.mp hblock
        exact ⟨rfl, hshows.quiet hwired fun step hstep => List.mem_singleton.mp hstep ▸ trivial⟩
    | usleepRange least most =>
        obtain rfl := produces_perform.mp hblock
        exact ⟨rfl, hshows.quiet hwired fun step hstep => List.mem_singleton.mp hstep ▸ trivial⟩
    | requestFirmware =>
        obtain ⟨rfl, hanswer⟩ := produces_pure.mp hblock
        exact ⟨hanswer, hshows.quiet hwired fun step hstep => absurd hstep List.not_mem_nil⟩
    | releaseFirmware =>
        obtain ⟨rfl, hanswer⟩ := produces_pure.mp hblock
        exact ⟨hanswer, hshows.quiet hwired fun step hstep => absurd hstep List.not_mem_nil⟩

/-- The form in which the driver reaches its registers can be carried. -/
theorem Accesses.carried {regs : List (BitVec 8)} {op : LgsOp}
    (hseven : config.demodAddress < 0x7E) (h : Accesses config regs op) : Carried op := by
  have hlow : config.demodAddress.toNat < 0x7E := hseven
  cases h with
  | write data hreg =>
      refine ⟨fun msg hmsg => ?_, List.cons_ne_nil _ _, List.cons_ne_nil _ _⟩
      obtain rfl := List.mem_singleton.mp hmsg
      show (if _ then config.demodAddress.setWidth 16 + 0x02 else _) < (128 : BitVec 16)
      split <;> bv_omega
  | @read reg hreg =>
      have haddr : (if config.prod ≠ lgs8gxxProdLgs8g75 ∧ 0xC0 ≤ reg then
          config.demodAddress + 0x02 else config.demodAddress).setWidth 16 < (128 : BitVec 16) := by
        split <;> bv_omega
      refine ⟨fun msg hmsg => ?_, List.cons_ne_nil _ _, List.cons_ne_nil _ _⟩
      obtain rfl | hsecond := List.mem_cons.mp hmsg
      · exact haddr
      · exact List.mem_singleton.mp hsecond ▸ haddr
  | other hother =>
      cases op with
      | i2cTransfer msgs => exact absurd rfl (hother msgs)
      | msleep | usleepRange | requestFirmware | releaseFirmware => trivial

/-- The line is idle without anything on its way. -/
structure Line.Rests (line : Line τ) (state : τ) : Prop where
  device : line.device = state
  settled : line.Settled
  clean : line.path.unread = []

/-- One operation on a controller without delays. -/
theorem block_on_prompt (op : LgsOp) {line : Line τ} {state : τ} (hcarried : Carried op)
    (hrests : line.Rests state) :
    ((overBus i2c firmware op).run (promptWorld i2c target) line).1 =
        (targetWorld target firmware).answer op state ∧
      ((overBus i2c firmware op).run (promptWorld i2c target) line).2.Rests
        ((targetWorld target firmware).after op state) := by
  have hquiet (op : BusOp I2cOp) (hop : Quiet i2c op) :
      ((promptWorld i2c target).after op line).Rests state := by
    rw [prompt_quiet hrests.settled hop]
    exact hrests
  cases op with
  | i2cTransfer msgs =>
      obtain ⟨hseven, hne, hlast⟩ := hcarried
      obtain ⟨hresult, hsettled⟩ := xfer_prompt i2c target msgs hrests.settled
      have hrun := produces_run_pair (promptWorld i2c target) (i2cXfer i2c msgs) line
      rw [hresult] at hrun
      obtain ⟨hmsgs, hdevice, hclean⟩ := xfer_refines hseven hne hlast hrun
        (prompt_wired i2c target (i2cXfer i2c msgs) line) hrests.clean
      rw [hrests.device] at hmsgs hdevice
      exact ⟨Prod.ext hresult hmsgs, hdevice, hsettled, hclean⟩
  | msleep milliseconds => exact ⟨rfl, hquiet (.delay milliseconds) trivial⟩
  | usleepRange least most => exact ⟨rfl, hquiet (.extra (.udelay least)) trivial⟩
  | requestFirmware => exact ⟨rfl, hrests⟩
  | releaseFirmware => exact ⟨rfl, hrests⟩

/-- On a controller without delays every program returns what it returns on the device, and leaves
the device in the same state. -/
theorem program_on_prompt {program : LgsProgram α} (hcarried : program.Only Carried)
    {line : Line τ} {state : τ} (hrests : line.Rests state) :
    ((program.implement (overBus i2c firmware)).run (promptWorld i2c target) line).1 =
        (program.run (targetWorld target firmware) state).1 ∧
      ((program.implement (overBus i2c firmware)).run (promptWorld i2c target) line).2.Rests
        (program.run (targetWorld target firmware) state).2 :=
  run_implement (fun op _ _ hop hline => block_on_prompt op hop hline) hcarried hrests

end Saa7231
