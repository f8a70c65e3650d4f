import Saa7231.I2c.Ready

/-!
# Releasing the bus

The STOP bit is set in the loop over the bytes of a message. A last message without bytes never
gets there, so the transfer returns `num` and leaves the bus held: the SMBus quick command, which
the adapter advertises, is such a transfer.
-/

namespace Saa7231

open Interaction Bus Program

/-! ## Functionality bits of the I2C core -/

def i2cFuncI2c : BitVec 32 := 0x00000001
def i2cFuncSmbusPec : BitVec 32 := 0x00000008
def i2cFuncSmbusQuick : BitVec 32 := 0x00010000
def i2cFuncSmbusByte : BitVec 32 := 0x00060000
def i2cFuncSmbusByteData : BitVec 32 := 0x00180000
def i2cFuncSmbusWordData : BitVec 32 := 0x00600000
def i2cFuncSmbusProcCall : BitVec 32 := 0x00800000
def i2cFuncSmbusWriteBlockData : BitVec 32 := 0x02000000
def i2cFuncSmbusI2cBlock : BitVec 32 := 0x0c000000

def i2cFuncSmbusEmul : BitVec 32 :=
  i2cFuncSmbusQuick ||| i2cFuncSmbusByte ||| i2cFuncSmbusByteData ||| i2cFuncSmbusWordData |||
    i2cFuncSmbusProcCall ||| i2cFuncSmbusWriteBlockData ||| i2cFuncSmbusI2cBlock |||
    i2cFuncSmbusPec

/-- `saa7231_i2c_func`. -/
def i2cFunc : BitVec 32 := i2cFuncI2c ||| i2cFuncSmbusEmul

/-- The last word pushed released the bus. -/
def released (words : List (BitVec 32)) : Bool := words.getLast?.any stops

/-- A transfer that returned `num` released the bus exactly when its last message has a byte. -/
theorem bus_released_iff (i2c : I2c) (msgs : List I2cMsg) (hne : msgs ≠ [])
    (hseven : ∀ msg ∈ msgs, msg.addr < 128) (steps : List I2cStep) (msgs' : List I2cMsg)
    (hrun : Produces (i2cXfer i2c msgs) steps (msgs.length, msgs')) :
    released (i2c.words steps) ↔ 0 < (msgs.getLast hne).buf.length := by
  rw [xfer_words hrun, List.length_pos_iff]
  constructor
  · intro hreleased hempty
    obtain ⟨last, hlast, hstops⟩ := Option.any_eq_true _ _ |>.mp hreleased
    obtain ⟨pushed, hpushed, rfl⟩ := List.mem_map.mp (List.mem_of_getLast? hlast)
    rw [open_wireWords hseven hne hempty pushed hpushed] at hstops
    cases hstops
  · intro hbytes
    obtain ⟨init, last, hwords, _, hstops⟩ := wireWords_stopsLast hseven hne hbytes
    rw [released, hwords, List.getLast?_concat]
    exact hstops

/-- The SMBus quick command: one message without bytes. -/
def quickCommand : List I2cMsg := [⟨0x50, 0, []⟩]

theorem register_read_released :
    ∃ steps : List I2cStep, released (I2c.plain.words steps) :=
  ⟨_, (bus_released_iff I2c.plain registerRead (by decide) (by decide) _
    [⟨0x50, 0, [0x12]⟩, ⟨0x50, i2cMRd, [0x40, 0x40]⟩]
    (@produces_of_run _ _ _ _ (i2cWorld fun _ => 0x40) _ 0 _ (by decide +kernel))).mpr
      (by decide)⟩

/-- The advertised quick command returns `num` and holds the bus. -/
theorem quick_command_holds_bus :
    i2cFunc &&& i2cFuncSmbusQuick ≠ 0 ∧
      ¬ ∀ (i2c : I2c) (msgs : List I2cMsg), msgs ≠ [] → (∀ msg ∈ msgs, msg.addr < 128) →
        ∀ steps msgs', Produces (i2cXfer i2c msgs) steps ((msgs.length : Int), msgs') →
          released (i2c.words steps) := by
  refine ⟨by decide, fun hreleases => ?_⟩
  have hrun : ((i2cXfer I2c.plain quickCommand).run (i2cWorld fun _ => 0x40) 0).1 =
      (1, quickCommand) := by decide +kernel
  have hreleased := hreleases I2c.plain quickCommand (by decide) (by decide) _ _
    (produces_of_run hrun)
  have hwords : I2c.plain.words
      ((i2cXfer I2c.plain quickCommand).transcript (i2cWorld fun _ => 0x40) 0) = [0x1a0] := by
    decide +kernel
  rw [hwords] at hreleased
  exact absurd hreleased (by decide)

end Saa7231
