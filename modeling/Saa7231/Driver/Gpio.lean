import Saa7231.Driver.Probe
import Saa7231.Interaction.Moments

/-!
# The pins (`saa7231_gpio.c`, `saa7231_drv.c`)

A pin has a level and a direction. The driver changes them through registers that set or clear the
bits of a word, from `frontend_enable`, from the reset of the A328's demodulator and from the
attribute `gpio_ctl`. `frontend_enable_drives_iff` says on which boards a pin is driven before it is
an output, and `a328_pins` which pins of an A328 are low after any use of the attribute.
-/

namespace Saa7231

open Interaction Bus Program

/-! ## The registers -/

def Mod.gpio : Nat := 0x00105000

def fb0Mode0Set : Nat := 0x00000014
def fb0Mode0Reset : Nat := 0x00000018
def fb0Mode1Set : Nat := 0x00000024

section Functions

variable {Ext : Type} {ExtAns : Ext → Type}

/-- `saa7231_gpio_set`. -/
def saa7231GpioSet (bits val : BitVec 8) : BusProgram ExtAns Int := do
  wr (bits.setWidth 32) (Mod.gpio + if val ≠ 0 then fb0Mode0Set else fb0Mode0Reset)
  return 0

/-- `GPIO_SET_OUT`. -/
def gpioSetOut (gpios : BitVec 32) : BusProgram ExtAns Unit := wr gpios (Mod.gpio + fb0Mode1Set)

/-- `saa7231_gpio_reset`. -/
def saa7231GpioReset (gpio : BitVec 8) (milliseconds : Nat) : BusProgram ExtAns Int := do
  if (← saa7231GpioSet gpio 0) < 0 then
    return -eio
  else
    delay milliseconds
    if (← saa7231GpioSet gpio 1) < 0 then
      return -eio
    else
      delay milliseconds
      return 0

/-! ## The boards -/

/-- `SUBSYS_INFO`. -/
def subsysInfo (vendor device : BitVec 32) : BitVec 32 := (vendor <<< 16) ||| device

/-- A board of Blackgold. -/
def blackgold (device : BitVec 32) : BitVec 32 := subsysInfo 0x14c7 device

def bgt3595 : BitVec 32 := blackgold 0x3595
def bgt3585 : BitVec 32 := blackgold 0x3585
def purusMPcieRef : BitVec 32 := subsysInfo 0x1131 0x0003
def avermediaA328 : BitVec 32 := subsysInfo 0x1461 0x8323

def gpio0 : BitVec 8 := 0x01
def gpio1 : BitVec 8 := 0x02
def gpio2 : BitVec 8 := 0x04
def gpio3 : BitVec 8 := 0x08
def gpio4 : BitVec 8 := 0x10
def gpio5 : BitVec 8 := 0x20

/-- The boards whose case makes some pins outputs and then resets pins for 50 milliseconds each: the
outputs, and the pins in order. -/
def resetBoards : List (BitVec 32 × BitVec 8 × List (BitVec 8)) :=
  [(bgt3595, gpio1, [gpio0]),
    (bgt3585, gpio1, [gpio0]),
    (blackgold 0x3576, gpio1 ||| gpio2, [gpio2, gpio1]),
    (blackgold 0x3575, gpio1 ||| gpio2, [gpio1]),
    (blackgold 0x3600, gpio1, [gpio1]),
    (blackgold 0x3602, gpio2, [gpio2]),
    (blackgold 0x3620, gpio2, [gpio2]),
    (blackgold 0x3630, gpio1 ||| gpio2, [gpio1, gpio2]),
    (blackgold 0x3650, gpio1, [gpio1]),
    (blackgold 0x3651, gpio1, [gpio1]),
    (blackgold 0x3660, gpio1, [gpio1]),
    (blackgold 0x3685, gpio1, [gpio1]),
    (blackgold 0x3695, gpio1, [gpio1]),
    (blackgold 0x3696, gpio1, [gpio1]),
    (blackgold 0x3636, gpio1 ||| gpio2, [gpio1, gpio2])]

/-- The resets of a case, one after the other; `result` is `ret` so far. -/
def resetPins (milliseconds : Nat) : List (BitVec 8) → Int → BusProgram ExtAns Int
  | [], result => pure result
  | gpio :: rest, result => do
      let err ← saa7231GpioReset gpio milliseconds
      resetPins milliseconds rest (if err < 0 then -eio else result)

/-- `saa7231_frontend_enable`, on the board with that subsystem. -/
def saa7231FrontendEnable (subsystem : BitVec 32) : BusProgram ExtAns Int := do
  if subsystem = purusMPcieRef then
    gpioSetOut ((gpio3 ||| gpio4 ||| gpio5).setWidth 32)
    let err ← saa7231GpioSet gpio3 0
    delay 100
    resetPins 10 [gpio5, gpio4] (if err < 0 then -eio else 0)
  else if subsystem = avermediaA328 then
    gpioSetOut 0xFF
    let err ← saa7231GpioSet 0xFF 1
    return if err < 0 then -eio else 0
  else
    match resetBoards.lookup subsystem with
    | some (outputs, resets) => do
        gpioSetOut (outputs.setWidth 32)
        resetPins 50 resets 0
    | none => return 0

/-! ## The attribute and the demodulator's reset -/

/-- What `sscanf` takes from the text of `gpio_ctl`. -/
structure GpioCommand where
  bit : Int
  action : String

/-- What `saa7231_gpio_ctl_store` does with the action, on the pin of the bit. -/
def gpioAction (gpio : BitVec 32) (action : String) (count : Nat) : BusProgram ExtAns Int := do
  if action = "out" then
    wr gpio (Mod.gpio + fb0Mode1Set)
    return count
  else if action = "hi" then
    wr gpio (Mod.gpio + fb0Mode1Set)
    wr gpio (Mod.gpio + fb0Mode0Set)
    return count
  else if action = "lo" then
    wr gpio (Mod.gpio + fb0Mode1Set)
    wr gpio (Mod.gpio + fb0Mode0Reset)
    return count
  else if action = "pulse" then
    wr gpio (Mod.gpio + fb0Mode1Set)
    wr gpio (Mod.gpio + fb0Mode0Reset)
    delay 50
    wr gpio (Mod.gpio + fb0Mode0Set)
    delay 50
    return count
  else
    return -einval

/-- `saa7231_gpio_ctl_store`. The device is there or not, and its registers are mapped or not;
`command` is `none` when `sscanf` converts less than two items. -/
def saa7231GpioCtlStore (device : Option Bool) (command : Option GpioCommand) (count : Nat) :
    BusProgram ExtAns Int :=
  match device, command with
  | none, _ | some false, _ => pure (-enodev)
  | some true, none => pure (-einval)
  | some true, some ⟨bit, action⟩ =>
      if bit < 0 ∨ bit > 7 then pure (-einval)
      else gpioAction (1#32 <<< bit.toNat) action count

/-- The reset of the LGS8G75 in `saa7231_frontend_attach`; `gpioReset` is the module parameter
`a328_gpio_reset`. -/
def resetLgs8g75 (gpioReset : BitVec 32) : BusProgram ExtAns Unit := do
  if 0 ≤ gpioReset.toInt ∧ gpioReset.toInt ≤ 7 then
    let rstBit : BitVec 32 := 1#32 <<< gpioReset.toNat
    let _ret ← saa7231GpioSet (rstBit.setWidth 8) 0
    delay 20
    let _ret ← saa7231GpioSet (rstBit.setWidth 8) 1
    delay 100
  else
    return ()

end Functions

/-! ## The port -/

/-- The levels and the directions of the pins; a set bit of `mode1` is an output. -/
structure GpioPort where
  mode0 : BitVec 32
  mode1 : BitVec 32

/-- A write to the set and reset registers. -/
def GpioPort.write (port : GpioPort) (value : BitVec 32) (address : Nat) : GpioPort :=
  if address = Mod.gpio + fb0Mode0Set then { port with mode0 := port.mode0 ||| value }
  else if address = Mod.gpio + fb0Mode0Reset then { port with mode0 := port.mode0 &&& ~~~value }
  else if address = Mod.gpio + fb0Mode1Set then { port with mode1 := port.mode1 ||| value }
  else port

section Port

variable {Ext : Type} {ExtAns : Ext → Type} (reading : Nat → GpioPort → BitVec 32)
  (answers : (op : Ext) → ExtAns op)

/-- The port under the bus, whatever its registers read. -/
def gpioWorld : World (BusOp Ext) (BusAns ExtAns) GpioPort where
  answer op port := match op with
    | .rd address => reading address port
    | .wr _ _ | .delay _ => ()
    | .extra op => answers op
  after op port := match op with
    | .wr value address => port.write value address
    | .rd _ | .delay _ | .extra _ => port

/-- The pins that a write drives, high or low, are outputs. -/
def DrivesOutputs (op : BusOp Ext) (port : GpioPort) : Prop :=
  ∀ value, op = .wr value (Mod.gpio + fb0Mode0Set) ∨ op = .wr value (Mod.gpio + fb0Mode0Reset) →
    value &&& ~~~port.mode1 = 0

variable {reading answers} {port : GpioPort}

/-- A set writes both registers of the level. -/
theorem run_gpio_set (bits val : BitVec 8) :
    (saa7231GpioSet bits val : BusProgram ExtAns Int).run (gpioWorld reading answers) port =
      (0, { port with mode0 := if val ≠ 0 then port.mode0 ||| bits.setWidth 32
        else port.mode0 &&& ~~~bits.setWidth 32 }) := by
  by_cases hval : val = 0
  · subst hval
    rfl
  · show (0, port.write (bits.setWidth 32) (Mod.gpio + if val ≠ 0 then fb0Mode0Set
      else fb0Mode0Reset)) = _
    rw [if_pos hval, if_pos hval]
    rfl

/-- The direction is one register. -/
theorem run_gpio_set_out (gpios : BitVec 32) :
    (gpioSetOut gpios : BusProgram ExtAns Unit).run (gpioWorld reading answers) port =
      ((), { port with mode1 := port.mode1 ||| gpios }) := rfl

/-- A set drives outputs only exactly if its pins are outputs. -/
theorem drives_set_iff (bits val : BitVec 8) :
    (saa7231GpioSet bits val : BusProgram ExtAns Int).Meets (gpioWorld reading answers)
      DrivesOutputs port ↔ bits.setWidth 32 &&& ~~~port.mode1 = 0 := by
  unfold saa7231GpioSet
  rw [meets_bind]
  refine (and_iff_left trivial).trans ?_
  refine (meets_perform _).trans ⟨fun h => ?_, fun h value hvalue => ?_⟩
  · split at h
    next => exact h _ (Or.inl rfl)
    next => exact h _ (Or.inr rfl)
  · obtain heq | heq := hvalue
    all_goals
      rw [← (BusOp.wr.inj heq).1]
      exact h

/-- Setting the direction drives no other pin. -/
theorem drives_set_out (gpios : BitVec 32) :
    (gpioSetOut gpios : BusProgram ExtAns Unit).Meets (gpioWorld reading answers) DrivesOutputs
      port := by
  refine (meets_perform _).mpr fun value hvalue => ?_
  obtain heq | heq := hvalue
  all_goals
    obtain ⟨-, haddress⟩ := BusOp.wr.inj heq
    exact absurd haddress (by decide)

/-- A delay drives none. -/
theorem drives_delay (milliseconds : Nat) :
    (delay milliseconds : BusProgram ExtAns Unit).Meets (gpioWorld reading answers) DrivesOutputs
      port := by
  refine (meets_perform _).mpr fun value hvalue => ?_
  obtain heq | heq := hvalue
  all_goals cases heq

/-- A pin that is reset is high after it. -/
theorem run_gpio_reset (gpio : BitVec 8) (milliseconds : Nat) :
    (saa7231GpioReset gpio milliseconds : BusProgram ExtAns Int).run (gpioWorld reading answers)
      port = (0, { port with mode0 := port.mode0 ||| gpio.setWidth 32 }) := by
  have hlevel (level bits : BitVec 32) : (level &&& ~~~bits) ||| bits = level ||| bits := by
    ext i
    simp only [BitVec.getElem_or, BitVec.getElem_and, BitVec.getElem_not]
    cases level[i] <;> cases bits[i] <;> rfl
  unfold saa7231GpioReset
  rw [run_bind, run_gpio_set]
  dsimp only
  rw [if_neg (by decide), run_bind, run_bind, run_gpio_set]
  show (0, GpioPort.mk ((port.mode0 &&& ~~~gpio.setWidth 32) ||| gpio.setWidth 32) port.mode1) = _
  rw [hlevel]

/-- A reset drives outputs only exactly if its pin is one. -/
theorem drives_reset_iff (gpio : BitVec 8) (milliseconds : Nat) :
    (saa7231GpioReset gpio milliseconds : BusProgram ExtAns Int).Meets (gpioWorld reading answers)
      DrivesOutputs port ↔ gpio.setWidth 32 &&& ~~~port.mode1 = 0 := by
  unfold saa7231GpioReset
  rw [meets_bind, drives_set_iff, run_gpio_set]
  refine and_iff_left_of_imp fun hdriven => ?_
  dsimp only
  rw [if_neg (by decide)]
  refine meets_bind.mpr ⟨drives_delay _, meets_bind.mpr ⟨?_, ?_⟩⟩
  · exact (drives_set_iff _ _).mpr hdriven
  · rw [run_gpio_set]
    dsimp only
    rw [if_neg (by decide)]
    exact meets_bind.mpr ⟨drives_delay _, trivial⟩

/-- The resets of several pins. -/
theorem drives_reset_pins_iff (milliseconds : Nat) (gpios : List (BitVec 8)) (result : Int) :
    (resetPins milliseconds gpios result : BusProgram ExtAns Int).Meets (gpioWorld reading answers)
      DrivesOutputs port ↔ ∀ gpio ∈ gpios, gpio.setWidth 32 &&& ~~~port.mode1 = 0 := by
  induction gpios generalizing port result with
  | nil => exact iff_of_true trivial fun gpio hgpio => absurd hgpio List.not_mem_nil
  | cons gpio rest ih =>
      rw [resetPins, meets_bind, drives_reset_iff, run_gpio_reset, ih, List.forall_mem_cons]

/-- The pins of the bits are outputs. -/
theorem driven_iff {bits outputs : BitVec 32} : bits &&& ~~~outputs = 0 ↔
    ∀ i < 32, bits.getLsbD i = true → outputs.getLsbD i = true := by
  constructor
  · intro h i hi hbit
    have hclear : (bits &&& ~~~outputs).getLsbD i = false := by
      rw [h]
      exact BitVec.getLsbD_zero
    simpa [hi, hbit] using hclear
  · intro h
    refine BitVec.eq_of_getLsbD_eq fun i hi => ?_
    rw [BitVec.getLsbD_and, BitVec.getLsbD_not, BitVec.ofNat_eq_ofNat, BitVec.getLsbD_zero]
    cases hbit : bits.getLsbD i with
    | false => rfl
    | true =>
        rw [h i hi hbit]
        simp

/-- The bit of a single pin. -/
theorem pin_bit {i : Nat} (hi : i < 32) (j : Nat) :
    (1#32 <<< i).getLsbD j = true ↔ j = i := by
  rw [← BitVec.twoPow_eq, BitVec.getLsbD_twoPow]
  simp only [Bool.and_eq_true, decide_eq_true_eq]
  omega

/-- Pins that are made outputs in the same call. -/
theorem driven_of_subset {gpio outputs : BitVec 8} {before : BitVec 32}
    (hsub : gpio &&& ~~~outputs = 0) :
    gpio.setWidth 32 &&& ~~~(before ||| outputs.setWidth 32) = 0 := by
  refine driven_iff.mpr fun i hi hbit => ?_
  rw [BitVec.getLsbD_setWidth, Bool.and_eq_true, decide_eq_true_eq] at hbit
  have hclear : (gpio &&& ~~~outputs).getLsbD i = false := by
    rw [hsub]
    exact BitVec.getLsbD_zero
  have hlow : i < 8 := BitVec.lt_of_getLsbD hbit.2
  simp only [BitVec.getLsbD_and, BitVec.getLsbD_not, hbit.2, hlow, decide_true, Bool.true_and,
    Bool.not_eq_false'] at hclear
  simp [hi, hclear]

/-- Pin 0, after pin 1 was made an output. -/
theorem gpio0_driven_iff {before : BitVec 32} :
    gpio0.setWidth 32 &&& ~~~(before ||| gpio1.setWidth 32) = 0 ↔ before.getLsbD 0 = true := by
  have hpin : gpio0.setWidth 32 = 1#32 <<< 0 := by decide
  have hother : (gpio1.setWidth 32).getLsbD 0 = false := by decide
  rw [hpin, driven_iff]
  constructor
  · intro h
    have hdriven := h 0 (by decide) (by decide)
    rwa [BitVec.getLsbD_or, hother, Bool.or_false] at hdriven
  · intro h i _ hbit
    obtain rfl := (pin_bit (by decide) i).mp hbit
    rw [BitVec.getLsbD_or, h, Bool.true_or]

/-- `frontend_enable` of the boards of Blackgold. -/
theorem drives_enable_resets_iff (outputs : BitVec 8) (resets : List (BitVec 8)) :
    (do
      gpioSetOut (outputs.setWidth 32)
      resetPins 50 resets 0 : BusProgram ExtAns Int).Meets (gpioWorld reading answers)
      DrivesOutputs port ↔
      ∀ gpio ∈ resets, gpio.setWidth 32 &&& ~~~(port.mode1 ||| outputs.setWidth 32) = 0 := by
  rw [meets_bind, drives_reset_pins_iff]
  exact and_iff_right (drives_set_out _)

/-- The case of the A328: all pins are outputs before they are driven. -/
theorem drives_all_outputs :
    (do
      gpioSetOut 0xFF
      let err ← saa7231GpioSet 0xFF 1
      return if err < 0 then -eio else 0 : BusProgram ExtAns Int).Meets (gpioWorld reading answers)
      DrivesOutputs port := by
  have hall : (0xFF : BitVec 8) &&& ~~~(0xFF : BitVec 8) = 0 := by decide
  have hwide : (0xFF : BitVec 8).setWidth 32 = 0xFF#32 := by decide
  have hdriven : (0xFF : BitVec 8).setWidth 32 &&&
      ~~~(port.mode1 ||| (0xFF : BitVec 8).setWidth 32) = 0 := driven_of_subset hall
  rw [hwide] at hdriven
  refine meets_bind.mpr ⟨drives_set_out _, meets_bind.mpr ⟨?_, trivial⟩⟩
  rw [drives_set_iff, run_gpio_set_out, hwide]
  exact hdriven

/-- The boards that reset a pin which they did not make an output, and the others. -/
theorem reset_boards_cases : ∀ board ∈ resetBoards,
    ((board.1 = bgt3595 ∨ board.1 = bgt3585) ∧ board.2 = (gpio1, [gpio0])) ∨
      (¬ (board.1 = bgt3595 ∨ board.1 = bgt3585) ∧
        ∀ gpio ∈ board.2.2, gpio &&& ~~~board.2.1 = 0) := by decide

/-- On every board `frontend_enable` drives outputs only, but on the BGT3595 and the BGT3585. These
make pin 1 an output and reset pin 0, so that they need pin 0 to be an output before. -/
theorem frontend_enable_drives_iff (subsystem : BitVec 32) :
    (saa7231FrontendEnable subsystem : BusProgram ExtAns Int).Meets (gpioWorld reading answers)
        DrivesOutputs port ↔
      (subsystem = bgt3595 ∨ subsystem = bgt3585 → port.mode1.getLsbD 0 = true) := by
  unfold saa7231FrontendEnable
  split
  next href =>
    have hother : ¬ (subsystem = bgt3595 ∨ subsystem = bgt3585) := by
      rw [href]
      decide
    refine iff_of_true ?_ fun h => absurd h hother
    have hdriven {gpio : BitVec 8} (hgpio : gpio &&& ~~~(gpio3 ||| gpio4 ||| gpio5) = 0) :
        gpio.setWidth 32 &&& ~~~(port.mode1 ||| (gpio3 ||| gpio4 ||| gpio5).setWidth 32) = 0 :=
      driven_of_subset hgpio
    refine meets_bind.mpr ⟨drives_set_out _, meets_bind.mpr ⟨?_, ?_⟩⟩
    · exact (drives_set_iff _ _).mpr (hdriven (by decide))
    · refine meets_bind.mpr ⟨drives_delay _, ?_⟩
      refine (drives_reset_pins_iff _ _ _).mpr fun gpio hgpio => ?_
      rw [run_gpio_set_out, run_gpio_set]
      refine hdriven ?_
      revert gpio
      decide
  next =>
    split
    next ha328 =>
      have hother : ¬ (subsystem = bgt3595 ∨ subsystem = bgt3585) := by
        rw [ha328]
        decide
      exact iff_of_true drives_all_outputs fun h => absurd h hother
    next =>
      split
      next outputs resets hboard =>
        rw [drives_enable_resets_iff]
        obtain ⟨before, after, hboards, -⟩ := List.lookup_eq_some_iff.mp hboard
        have hmem : (subsystem, outputs, resets) ∈ resetBoards := by
          rw [hboards]
          exact List.mem_append_right _ List.mem_cons_self
        obtain ⟨hboth, hpins⟩ | ⟨hother, hsub⟩ := reset_boards_cases _ hmem
        · obtain ⟨rfl, rfl⟩ := Prod.mk.inj hpins
          rw [List.forall_mem_singleton, gpio0_driven_iff]
          exact ⟨fun h _ => h, fun h => h hboth⟩
        · exact iff_of_true (fun gpio hgpio => driven_of_subset (hsub gpio hgpio))
            fun h => absurd h hother
      next hnone =>
        refine iff_of_true trivial fun h => ?_
        have hknown : (resetBoards.lookup subsystem).isSome := by
          obtain rfl | rfl := h <;> decide
        rw [hnone] at hknown
        cases hknown

end Port

/-! ## The pins of an A328 -/

/-- What happens to the pins after `frontend_enable`: a write to the attribute, with what `sscanf`
took from it, or the reset of the demodulator. -/
inductive GpioEvent where
  | control (command : Option GpioCommand) (count : Nat)
  | attach (gpioReset : BitVec 32)

section Pins

variable {Ext : Type} {ExtAns : Ext → Type}

def GpioEvent.program : GpioEvent → BusProgram ExtAns Unit
  | .control command count => do let _ret ← saa7231GpioCtlStore (some true) command count
  | .attach gpioReset => resetLgs8g75 gpioReset

/-- Events one after the other. -/
def gpioEvents : List GpioEvent → BusProgram ExtAns Unit
  | [] => pure ()
  | event :: rest => do
      event.program
      gpioEvents rest

/-- `frontend_enable`, and events after it. -/
def gpioSession (events : List GpioEvent) : BusProgram ExtAns Unit := do
  let _ret ← saa7231FrontendEnable avermediaA328
  gpioEvents events

/-- The level that an action leaves on its pin, if it drives the pin. -/
def actionLevel (action : String) : Option Bool :=
  if action = "hi" ∨ action = "pulse" then some true
  else if action = "lo" then some false
  else none

/-- The level that an event leaves on a pin, if it drives the pin. -/
def GpioEvent.level (i : Nat) : GpioEvent → Option Bool
  | .control (some ⟨bit, action⟩) _ =>
      if bit = i ∧ i ≤ 7 then actionLevel action else none
  | .control none _ => none
  | .attach gpioReset => if gpioReset.toInt = i ∧ i ≤ 7 then some true else none

variable {reading : Nat → GpioPort → BitVec 32} {answers : (op : Ext) → ExtAns op}
  {port : GpioPort}

/-! ### Single pins -/

/-- A set bit is one pin. -/
theorem set_pin {n : Nat} (hn : n < 32) (bits : BitVec 32) (i : Nat) :
    (bits ||| 1#32 <<< n).getLsbD i = if i = n then true else bits.getLsbD i := by
  rw [BitVec.getLsbD_or]
  split
  next heq => rw [(pin_bit hn i).mpr heq, Bool.or_true]
  next hne => rw [Bool.eq_false_iff.mpr fun h => hne ((pin_bit hn i).mp h), Bool.or_false]

/-- So is a cleared bit. -/
theorem clear_pin {n : Nat} (hn : n < 32) (bits : BitVec 32) (i : Nat) :
    (bits &&& ~~~(1#32 <<< n)).getLsbD i = if i = n then false else bits.getLsbD i := by
  rw [BitVec.getLsbD_and, BitVec.getLsbD_not]
  split
  next heq => rw [(pin_bit hn i).mpr heq, Bool.not_true, Bool.and_false, Bool.and_false]
  next hne =>
    rw [Bool.eq_false_iff.mpr fun h => hne ((pin_bit hn i).mp h)]
    by_cases hi : i < 32
    · simp [hi]
    · rw [BitVec.getLsbD_of_ge _ _ (Nat.not_lt.mp hi), Bool.false_and]

/-- A pin that was just made an output. -/
theorem driven_or (gpio outputs : BitVec 32) : gpio &&& ~~~(outputs ||| gpio) = 0 :=
  driven_iff.mpr fun i _ hbit => by rw [BitVec.getLsbD_or, hbit, Bool.or_true]

/-- A write that stays within the outputs, or changes the direction. -/
theorem drives_wr {value : BitVec 32} {address : Nat}
    (h : value &&& ~~~port.mode1 = 0 ∨ address = Mod.gpio + fb0Mode1Set) :
    (wr value address : BusProgram ExtAns Unit).Meets (gpioWorld reading answers) DrivesOutputs
      port := by
  refine (meets_perform _).mpr fun driven hdriven => ?_
  obtain heq | heq := hdriven
  all_goals
    obtain ⟨rfl, rfl⟩ := BusOp.wr.inj heq
    obtain hzero | haddress := h
    · exact hzero
    · exact absurd haddress (by decide)

/-! ### Events -/

/-- The program drives outputs only, leaves the directions alone and gives every pin the new level,
if there is one. -/
structure Leaves {α : Type} (program : BusProgram ExtAns α) (level : Nat → Option Bool) : Prop where
  drives : ∀ reading (answers : (op : Ext) → ExtAns op) port,
    (∀ i ≤ 7, port.mode1.getLsbD i = true) →
    program.Meets (gpioWorld reading answers) DrivesOutputs port
  directions : ∀ reading (answers : (op : Ext) → ExtAns op) port,
    (∀ i ≤ 7, port.mode1.getLsbD i = true) →
    (program.run (gpioWorld reading answers) port).2.mode1 = port.mode1
  levels : ∀ reading (answers : (op : Ext) → ExtAns op) port i, i < 32 →
    (program.run (gpioWorld reading answers) port).2.mode0.getLsbD i =
      (level i).getD (port.mode0.getLsbD i)

/-- The level of an action on pin `n`. -/
def pinLevel (n : Nat) (level : Option Bool) (i : Nat) : Option Bool :=
  if i = n then level else none

/-- A bit that is set stays so. -/
theorem or_pin {n : Nat} (hn : n < 32) {bits : BitVec 32} (hset : bits.getLsbD n = true) :
    bits ||| 1#32 <<< n = bits := by
  refine BitVec.eq_of_getLsbD_eq fun i _ => ?_
  rw [set_pin hn]
  split
  next heq => rw [heq, hset]
  next => rfl

/-- The actions that the attribute knows, and all others. -/
theorem action_cases {p : String → Prop} (action : String) (hout : p "out") (hhi : p "hi")
    (hlo : p "lo") (hpulse : p "pulse")
    (hother : action ≠ "out" → action ≠ "hi" → action ≠ "lo" → action ≠ "pulse" → p action) :
    p action := by
  by_cases h₁ : action = "out"
  · exact h₁ ▸ hout
  by_cases h₂ : action = "hi"
  · exact h₂ ▸ hhi
  by_cases h₃ : action = "lo"
  · exact h₃ ▸ hlo
  by_cases h₄ : action = "pulse"
  · exact h₄ ▸ hpulse
  exact hother h₁ h₂ h₃ h₄

/-- An action leaves its pin at the level it names. -/
theorem gpio_action_leaves {n : Nat} (hn : n ≤ 7) (action : String) (count : Nat) :
    Leaves (gpioAction (1#32 <<< n) action count : BusProgram ExtAns Int)
      (pinLevel n (actionLevel action)) := by
  have hn32 : n < 32 := by omega
  have hdriven := driven_or (1#32 <<< n)
  induction action using action_cases with
  | hout =>
      refine ⟨fun _ _ _ _ => meets_bind.mpr ⟨drives_wr (Or.inr rfl), trivial⟩,
        fun _ _ port h => or_pin hn32 (h n hn), fun _ _ port i _ => ?_⟩
      show port.mode0.getLsbD i = (pinLevel n none i).getD _
      unfold pinLevel
      split <;> rfl
  | hhi =>
      refine ⟨fun _ _ port _ => meets_bind.mpr ⟨drives_wr (Or.inr rfl),
        meets_bind.mpr ⟨drives_wr (Or.inl (hdriven port.mode1)), trivial⟩⟩,
        fun _ _ port h => or_pin hn32 (h n hn), fun _ _ port i _ => ?_⟩
      show (port.mode0 ||| 1#32 <<< n).getLsbD i = (pinLevel n (some true) i).getD _
      rw [set_pin hn32, pinLevel]
      split <;> rfl
  | hlo =>
      refine ⟨fun _ _ port _ => meets_bind.mpr ⟨drives_wr (Or.inr rfl),
        meets_bind.mpr ⟨drives_wr (Or.inl (hdriven port.mode1)), trivial⟩⟩,
        fun _ _ port h => or_pin hn32 (h n hn), fun _ _ port i _ => ?_⟩
      show (port.mode0 &&& ~~~(1#32 <<< n)).getLsbD i = (pinLevel n (some false) i).getD _
      rw [clear_pin hn32, pinLevel]
      split <;> rfl
  | hpulse =>
      refine ⟨fun _ _ port _ => meets_bind.mpr ⟨drives_wr (Or.inr rfl),
        meets_bind.mpr ⟨drives_wr (Or.inl (hdriven port.mode1)), meets_bind.mpr ⟨drives_delay _,
        meets_bind.mpr ⟨drives_wr (Or.inl (hdriven port.mode1)),
        meets_bind.mpr ⟨drives_delay _, trivial⟩⟩⟩⟩⟩,
        fun _ _ port h => or_pin hn32 (h n hn), fun _ _ port i _ => ?_⟩
      show ((port.mode0 &&& ~~~(1#32 <<< n)) ||| 1#32 <<< n).getLsbD i =
        (pinLevel n (some true) i).getD _
      rw [set_pin hn32, clear_pin hn32, pinLevel]
      split <;> rfl
  | hother hout hhi hlo hpulse =>
      have hnothing : (gpioAction (1#32 <<< n) action count : BusProgram ExtAns Int) =
          pure (-einval) := by
        unfold gpioAction
        rw [if_neg hout, if_neg hhi, if_neg hlo, if_neg hpulse]
      have hlevel : actionLevel action = none := by
        unfold actionLevel
        rw [if_neg (not_or.mpr ⟨hhi, hpulse⟩), if_neg hlo]
      rw [hnothing, hlevel]
      refine ⟨fun _ _ _ _ => trivial, fun _ _ _ _ => rfl, fun _ _ port i _ => ?_⟩
      unfold pinLevel
      split <;> rfl

/-- A program that does nothing with the port. -/
theorem leaves_pure {α : Type} (value : α) :
    Leaves (pure value : BusProgram ExtAns α) fun _ => none :=
  ⟨fun _ _ _ _ => trivial, fun _ _ _ _ => rfl, fun _ _ _ _ _ => rfl⟩

/-- What a program leaves is left when its result is dropped. -/
theorem Leaves.dropped {α : Type} {program : BusProgram ExtAns α} {level : Nat → Option Bool}
    (h : Leaves program level) : Leaves (program >>= fun _ => pure ()) level where
  drives reading answers port hout := meets_bind.mpr ⟨h.drives reading answers port hout, trivial⟩
  directions reading answers port hout := by
    rw [run_bind]
    exact h.directions reading answers port hout
  levels reading answers port i hi := by
    rw [run_bind]
    exact h.levels reading answers port i hi

/-- The reset of the demodulator leaves its pin high. -/
theorem reset_lgs8g75_leaves {n : Nat} (hn : n ≤ 7) {gpioReset : BitVec 32}
    (hreset : gpioReset.toInt = n) :
    Leaves (resetLgs8g75 gpioReset : BusProgram ExtAns Unit) (pinLevel n (some true)) := by
  have hn32 : n < 32 := by omega
  have hnat : gpioReset.toNat = n := by
    have hcond := gpioReset.toInt_eq_toNat_cond
    have hbound := gpioReset.isLt
    split at hcond <;> omega
  have hwide : ((1#32 <<< n).setWidth 8).setWidth 32 = 1#32 <<< n := by
    have hall : ∀ k < 8, ((1#32 <<< k).setWidth 8).setWidth 32 = 1#32 <<< k := by decide
    exact hall n (by omega)
  have hdriven {port : GpioPort} (hout : ∀ i ≤ 7, port.mode1.getLsbD i = true) :
      ((1#32 <<< n).setWidth 8).setWidth 32 &&& ~~~port.mode1 = 0 := by
    rw [hwide, driven_iff]
    intro i _ hbit
    rw [(pin_bit hn32 i).mp hbit]
    exact hout n hn
  unfold resetLgs8g75
  rw [if_pos (by omega), hnat]
  refine ⟨fun _ _ port hout => ?_, fun _ _ _ _ => ?_, fun _ _ port i _ => ?_⟩
  · refine meets_bind.mpr ⟨(drives_set_iff _ _).mpr (hdriven hout), meets_bind.mpr
      ⟨drives_delay _, meets_bind.mpr ⟨(drives_set_iff _ _).mpr (hdriven ?_), drives_delay _⟩⟩⟩
    rw [run_gpio_set]
    exact hout
  · rw [run_bind, run_gpio_set, run_bind, run_bind, run_gpio_set]
    rfl
  · rw [run_bind, run_gpio_set, run_bind, run_bind, run_gpio_set]
    show ((port.mode0 &&& ~~~((1#32 <<< n).setWidth 8).setWidth 32) |||
      ((1#32 <<< n).setWidth 8).setWidth 32).getLsbD i = _
    rw [hwide, set_pin hn32, clear_pin hn32, pinLevel]
    split <;> rfl

/-- Every event leaves the levels that it names. -/
theorem event_leaves (event : GpioEvent) :
    Leaves (event.program : BusProgram ExtAns Unit) fun i => event.level i := by
  cases event with
  | control command count =>
      cases command with
      | none => exact (leaves_pure (-einval : Int)).dropped
      | some command =>
          obtain ⟨bit, action⟩ := command
          refine Leaves.dropped ?_
          by_cases hrange : bit < 0 ∨ bit > 7
          · have hstore : saa7231GpioCtlStore (some true) (some ⟨bit, action⟩) count =
                (pure (-einval) : BusProgram ExtAns Int) := if_pos hrange
            have hlevel : (fun i => GpioEvent.level i (.control (some ⟨bit, action⟩) count)) =
                fun _ => none := funext fun i => if_neg (by omega)
            rw [hstore, hlevel]
            exact leaves_pure _
          · obtain ⟨n, rfl⟩ := Int.eq_ofNat_of_zero_le (by omega : 0 ≤ bit)
            have hn : n ≤ 7 := by omega
            have hstore : saa7231GpioCtlStore (some true) (some ⟨n, action⟩) count =
                (gpioAction (1#32 <<< n) action count : BusProgram ExtAns Int) := if_neg hrange
            have hlevel : (fun i => GpioEvent.level i (.control (some ⟨n, action⟩) count)) =
                pinLevel n (actionLevel action) :=
              funext fun i => if_congr (by omega) rfl rfl
            rw [hstore, hlevel]
            exact gpio_action_leaves hn action count
  | attach gpioReset =>
      by_cases hrange : 0 ≤ gpioReset.toInt ∧ gpioReset.toInt ≤ 7
      · obtain ⟨n, hn⟩ := Int.eq_ofNat_of_zero_le hrange.1
        have hlevel : (fun i => GpioEvent.level i (.attach gpioReset)) = pinLevel n (some true) :=
          funext fun i => if_congr (by omega) rfl rfl
        rw [hlevel]
        exact reset_lgs8g75_leaves (by omega) hn
      · have hlevel : (fun i => GpioEvent.level i (.attach gpioReset)) = fun _ => none :=
          funext fun i => if_neg (by omega)
        have hreset : resetLgs8g75 gpioReset = (pure () : BusProgram ExtAns Unit) := if_neg hrange
        rw [GpioEvent.program, hreset, hlevel]
        exact leaves_pure ()

/-! ### Runs -/

/-- The level of a pin after events, the last one that drives it deciding. -/
def levelAfter (i : Nat) (events : List GpioEvent) (high : Bool) : Bool :=
  events.foldl (fun high event => (event.level i).getD high) high

/-- Some event lowers the pin, and no later one drives it. -/
def Lowered (i : Nat) (events : List GpioEvent) : Prop :=
  ∃ before event after, events = before ++ event :: after ∧ event.level i = some false ∧
    ∀ later ∈ after, later.level i = none

/-- A pin is lowered by the first event, or by a later one. -/
theorem lowered_cons (i : Nat) (event : GpioEvent) (rest : List GpioEvent) :
    Lowered i (event :: rest) ↔ Lowered i rest ∨
      (event.level i = some false ∧ ∀ later ∈ rest, later.level i = none) := by
  constructor
  · rintro ⟨before, last, after, hsplit, hlow, hlater⟩
    cases before with
    | nil =>
        obtain ⟨rfl, rfl⟩ := List.cons.inj hsplit
        exact Or.inr ⟨hlow, hlater⟩
    | cons first before =>
        obtain ⟨-, rfl⟩ := List.cons.inj hsplit
        exact Or.inl ⟨before, last, after, rfl, hlow, hlater⟩
  · intro h
    obtain ⟨before, last, after, rfl, hlow, hlater⟩ | ⟨hlow, hlater⟩ := h
    · exact ⟨event :: before, last, after, rfl, hlow, hlater⟩
    · exact ⟨[], event, rest, rfl, hlow, hlater⟩

/-- A pin is low exactly if an event lowered it and no later one touched it. -/
theorem level_after_eq_false (i : Nat) (events : List GpioEvent) (high : Bool) :
    levelAfter i events high = false ↔
      Lowered i events ∨ (high = false ∧ ∀ event ∈ events, event.level i = none) := by
  induction events generalizing high with
  | nil =>
      refine ⟨fun h => Or.inr ⟨h, fun event hmem => absurd hmem List.not_mem_nil⟩, fun h => ?_⟩
      obtain ⟨before, event, after, hsplit, -⟩ | ⟨hlow, -⟩ := h
      · exact absurd hsplit.symm (List.append_ne_nil_of_right_ne_nil _ (List.cons_ne_nil _ _))
      · exact hlow
  | cons event rest ih =>
      show levelAfter i rest ((event.level i).getD high) = false ↔ _
      rw [ih, lowered_cons, List.forall_mem_cons]
      cases event.level i with
      | none => simp
      | some level => cases level <;> simp

variable (reading answers) in
/-- Events on a port whose pins are outputs. -/
theorem events_run (events : List GpioEvent) {port : GpioPort}
    (hout : ∀ i ≤ 7, port.mode1.getLsbD i = true) :
    (gpioEvents events : BusProgram ExtAns Unit).Meets (gpioWorld reading answers)
        DrivesOutputs port ∧
      ((gpioEvents events : BusProgram ExtAns Unit).run (gpioWorld reading answers)
        port).2.mode1 = port.mode1 ∧
      ∀ i < 32, ((gpioEvents events : BusProgram ExtAns Unit).run
        (gpioWorld reading answers) port).2.mode0.getLsbD i =
          levelAfter i events (port.mode0.getLsbD i) := by
  induction events generalizing port with
  | nil => exact ⟨trivial, rfl, fun _ _ => rfl⟩
  | cons event rest ih =>
      have hleaves : Leaves (event.program : BusProgram ExtAns Unit) fun i => event.level i :=
        event_leaves event
      have hdirections := hleaves.directions reading answers port hout
      rw [gpioEvents, meets_bind, run_bind]
      obtain ⟨hmeets, hsame, hlevels⟩ := ih (hdirections ▸ hout)
      refine ⟨⟨hleaves.drives reading answers port hout, hmeets⟩, hsame.trans hdirections,
        fun i hi => ?_⟩
      rw [hlevels i hi, hleaves.levels reading answers port i hi]
      rfl

/-- On an A328, after `frontend_enable` and any use of the attribute and any resets of the
demodulator: every write drove outputs only, the eight pins of the front end are outputs, and a pin
is low exactly when some write to the attribute lowered it and nothing drove it after that. -/
theorem a328_pins (reading : Nat → GpioPort → BitVec 32) (answers : (op : Ext) → ExtAns op)
    (events : List GpioEvent) (port : GpioPort) :
    (gpioSession events : BusProgram ExtAns Unit).Meets (gpioWorld reading answers) DrivesOutputs
        port ∧
      ∀ i ≤ 7,
        ((gpioSession events).run (gpioWorld reading answers) port).2.mode1.getLsbD i = true ∧
        (((gpioSession events).run (gpioWorld reading answers) port).2.mode0.getLsbD i = false ↔
          Lowered i events) := by
  have hreference : ¬ avermediaA328 = purusMPcieRef := by decide
  have henable : (saa7231FrontendEnable avermediaA328 : BusProgram ExtAns Int).run
      (gpioWorld reading answers) port =
        (0, ⟨port.mode0 ||| 0xFF, port.mode1 ||| 0xFF⟩) := by
    have hwide : (0xFF : BitVec 8).setWidth 32 = 0xFF#32 := by decide
    unfold saa7231FrontendEnable
    rw [if_neg hreference, if_pos rfl, run_bind, run_gpio_set_out, run_bind, run_gpio_set, hwide]
    rfl
  have hdrives : (saa7231FrontendEnable avermediaA328 : BusProgram ExtAns Int).Meets
      (gpioWorld reading answers) DrivesOutputs port := by
    unfold saa7231FrontendEnable
    rw [if_neg hreference, if_pos rfl]
    exact drives_all_outputs
  have hall {bits : BitVec 32} {i : Nat} (hi : i ≤ 7) : (bits ||| 0xFF).getLsbD i = true := by
    have hlow : ∀ k < 8, (0xFF : BitVec 32).getLsbD k = true := by decide
    rw [BitVec.getLsbD_or, hlow i (by omega), Bool.or_true]
  have hout : ∀ i ≤ 7, (GpioPort.mk (port.mode0 ||| 0xFF) (port.mode1 ||| 0xFF)).mode1.getLsbD i =
      true := fun i hi => hall hi
  obtain ⟨hmeets, hsame, hlevels⟩ := events_run reading answers events hout
  unfold gpioSession
  rw [meets_bind, run_bind, henable]
  refine ⟨⟨hdrives, hmeets⟩, fun i hi => ⟨?_, ?_⟩⟩
  · rw [hsame]
    exact hall hi
  · rw [hlevels i (by omega), level_after_eq_false]
    refine or_iff_left fun h => ?_
    exact absurd ((hall hi).symm.trans h.1) (by decide)

end Pins

end Saa7231
