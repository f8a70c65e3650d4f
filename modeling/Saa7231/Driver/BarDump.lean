import Saa7231.Driver.Probe
import Saa7231.Interaction.Moments

/-!
# The register dump (`saa7231_bar_dump_store`)

A write to the attribute names a window, an offset and a number of registers. The function reads
the registers, renders them into a local array of 1600 characters and prints the array. The array
is large enough for every dump; `bar_dump_iff` says that it is a string by then exactly when there
was a register to render.
-/

namespace Saa7231

open Interaction Program

/-! ## The function -/

/-- The length of the array `out`. -/
def barDumpSize : Nat := 1600

/-- What `sscanf` takes from the attribute's text when it converts two or three numbers; without
a third one `n` keeps its initial value of 16. -/
structure BarDumpCommand where
  bar : Int
  off : BitVec 32
  n : Int

/-- What the function does outside its own variables. -/
inductive DumpOp where
  /-- `pci_iomap` of the second window; the answer says whether it succeeded. -/
  | pciIomap
  | pciIounmap
  /-- `readl` in the second or in the first window. -/
  | readl (second : Bool) (offset : Nat)
  /-- `sprintf` into the array, from a position on. -/
  | sprintf (position : Nat) (text : List Char)
  | devErr
  /-- `dev_info`, which prints the array as a string. -/
  | devInfo (bar : Int) (off : BitVec 32) (n : Int)

def DumpAns : DumpOp → Type
  | .pciIomap => Bool
  | .readl _ _ => BitVec 32
  | _ => Unit

abbrev DumpProgram : Type → Type := Program DumpOp DumpAns

namespace DumpProgram

def pciIomap : DumpProgram Bool := perform DumpOp.pciIomap
def pciIounmap : DumpProgram Unit := perform DumpOp.pciIounmap
def readl (second : Bool) (offset : Nat) : DumpProgram (BitVec 32) :=
  perform (DumpOp.readl second offset)
def sprintf (position : Nat) (text : List Char) : DumpProgram Unit :=
  perform (DumpOp.sprintf position text)
def devErr : DumpProgram Unit := perform DumpOp.devErr
def devInfo (bar : Int) (off : BitVec 32) (n : Int) : DumpProgram Unit :=
  perform (DumpOp.devInfo bar off n)

end DumpProgram

/-- The conversion `%0<width>X`. -/
def hexText (width : Nat) (value : BitVec 32) : List Char :=
  ((Nat.toDigits 16 value.toNat).map Char.toUpper).leftpad width '0'

/-- The text of one register, `%04X: %08X%s`. -/
def dumpText (off value : BitVec 32) (i : Nat) : List Char :=
  hexText 4 (off + BitVec.ofNat 32 (i * 4)) ++ ": ".toList ++ hexText 8 value ++
    if i % 4 = 3 then "\n".toList else "  ".toList

/-- The body of the loop: the cursor behind the text. -/
def dumpRegister (second : Bool) (off : BitVec 32) (i o : Nat) : DumpProgram Nat := do
  let v ← DumpProgram.readl second (off.toNat + i * 4)
  let text := dumpText off v i
  DumpProgram.sprintf o text
  return o + text.length

/-- The loop and the output. -/
def dumpRegisters (command : BarDumpCommand) (n : Int) : DumpProgram Unit := do
  let _o ← Program.loop n.toNat (dumpRegister (command.bar = 2) command.off) 0
  DumpProgram.devInfo command.bar command.off n

/-- `saa7231_bar_dump_store`. The device is there or not, and its first window is mapped or not;
`command` is `none` when `sscanf` converts less than two numbers. -/
def saa7231BarDumpStore (device : Option Bool) (command : Option BarDumpCommand) (count : Nat) :
    DumpProgram Int :=
  match device, command with
  | none, _ => pure (-enodev)
  | some _, none => pure (-einval)
  | some mmio1, some command => do
      let n := if command.n > 64 then 64 else command.n
      if command.bar = 2 then
        if ← DumpProgram.pciIomap then
          dumpRegisters command n
          DumpProgram.pciIounmap
          return count
        else
          DumpProgram.devErr
          return -enomem
      else if mmio1 then
        dumpRegisters command n
        return count
      else
        return -enodev

/-! ## The array -/

/-- The array, with `none` for what the call has not written, and the number of readings. -/
structure DumpState where
  out : Nat → Option Char
  reads : Nat

/-- Whether the second window can be mapped, and what the registers read as. -/
structure DumpEnvironment where
  mapped : Bool
  reading : Nat → BitVec 32

/-- The character that ends a string. -/
def nul : Char := Char.ofNat 0

/-- The text and its end at a position of the array. -/
def writeText (out : Nat → Option Char) (position : Nat) (text : List Char) : Nat → Option Char :=
  fun index =>
    if index < position then out index
    else if index < position + text.length then text[index - position]?
    else if index = position + text.length then some nul
    else out index

def dumpWorld (env : DumpEnvironment) : World DumpOp DumpAns DumpState where
  answer op state := match op with
    | .pciIomap => env.mapped
    | .readl _ _ => env.reading state.reads
    | .pciIounmap | .sprintf _ _ | .devErr | .devInfo _ _ _ => ()
  after op state := match op with
    | .readl _ _ => { state with reads := state.reads + 1 }
    | .sprintf position text => { state with out := writeText state.out position text }
    | .pciIomap | .pciIounmap | .devErr | .devInfo _ _ _ => state

/-- The array on entry: a local variable without an initial value. -/
def DumpState.fresh : DumpState where
  out := fun _ => none
  reads := 0

/-- The array holds a string that the call has written, with its end. -/
def Terminated (out : Nat → Option Char) : Prop :=
  ∃ length < barDumpSize, out length = some nul ∧ ∀ index < length, (out index).isSome

/-- The text and its end fit in the array. -/
def TextFits : DumpOp → DumpState → Prop
  | .sprintf position text, _ => position < barDumpSize ∧ position + text.length < barDumpSize
  | _, _ => True

/-- The text and its end fit in the array, and what is printed is a string. -/
def DumpGuard : DumpOp → DumpState → Prop
  | .sprintf position text, _ => position < barDumpSize ∧ position + text.length < barDumpSize
  | .devInfo _ _ _, state => Terminated state.out
  | _, _ => True

/-! ## The length of the text -/

/-- A 32-bit value has at most eight digits. -/
theorem hex_text_length (width : Nat) (hwidth : width ≤ 8) (value : BitVec 32) :
    (hexText width value).length ≤ 8 := by
  have hdigits : (Nat.toDigits 16 value.toNat).length ≤ 8 :=
    (Nat.length_toDigits_le_iff (by omega) (by omega)).mpr value.isLt
  unfold hexText
  rw [List.length_leftpad, List.length_map]
  omega

/-- Two numbers, the colon and the separator. -/
theorem dump_text_length (off value : BitVec 32) (i : Nat) :
    (dumpText off value i).length ≤ 20 := by
  have hoffset := hex_text_length 4 (by omega) (off + BitVec.ofNat 32 (i * 4))
  have hvalue := hex_text_length 8 (by omega) value
  have hseparator : (if i % 4 = 3 then "\n".toList else "  ".toList).length ≤ 2 := by
    split <;> decide
  have hcolon : (": ".toList).length = 2 := rfl
  unfold dumpText
  rw [List.length_append, List.length_append, List.length_append]
  omega

/-- The offset wraps at 32 bits. -/
example : dumpText 0xfffffffc 0xdeadbeef 1 = "0000: DEADBEEF  ".toList := by decide

/-! ## The loop -/

/-- After `i` registers: the cursor, and the string in front of it. -/
structure Rendered (i o : Nat) (state : DumpState) : Prop where
  cursor : o ≤ 20 * i
  written : ∀ index < o, (state.out index).isSome
  ended : 0 < i → state.out o = some nul

section Loop

variable {env : DumpEnvironment} {second : Bool} {off : BitVec 32} {i o : Nat} {state : DumpState}

theorem write_text_written {text : List Char} (h : ∀ index < o, (state.out index).isSome) :
    ∀ index < o + text.length, (writeText state.out o text index).isSome := by
  intro index hindex
  unfold writeText
  by_cases hold : index < o
  · rw [if_pos hold]
    exact h index hold
  · rw [if_neg hold, if_pos hindex, List.getElem?_eq_getElem (by omega)]
    rfl

theorem write_text_end (out : Nat → Option Char) (text : List Char) :
    writeText out o text (o + text.length) = some nul := by
  unfold writeText
  rw [if_neg (by omega), if_neg (by omega), if_pos rfl]

theorem dump_register_meets (h : Rendered i o state) (hi : i < 64) :
    (dumpRegister second off i o).Meets (dumpWorld env) DumpGuard state := by
  have hcursor := h.cursor
  have htext := dump_text_length off (env.reading state.reads) i
  refine ⟨trivial, ⟨?_, ?_⟩, trivial⟩
  · show o < 1600
    omega
  · show o + (dumpText off (env.reading state.reads) i).length < 1600
    omega

theorem dump_register_keeps (h : Rendered i o state) :
    Rendered (i + 1) ((dumpRegister second off i o).run (dumpWorld env) state).1
      ((dumpRegister second off i o).run (dumpWorld env) state).2 := by
  have hcursor := h.cursor
  have htext := dump_text_length off (env.reading state.reads) i
  refine ⟨?_, write_text_written h.written, fun _ => write_text_end _ _⟩
  show o + (dumpText off (env.reading state.reads) i).length ≤ 20 * (i + 1)
  omega

theorem text_fits_of_guard (op : DumpOp) (state : DumpState) (h : DumpGuard op state) :
    TextFits op state := by
  cases op with
  | sprintf position text => exact h
  | pciIomap | pciIounmap | readl _ _ | devErr | devInfo _ _ _ => trivial

/-- The loop writes within the array, and ends behind the texts of its registers. -/
theorem dump_loop_renders (env : DumpEnvironment) (command : BarDumpCommand) {n : Int} (hn : n ≤ 64) :
    let loop := Program.loop n.toNat (dumpRegister (command.bar = 2) command.off) 0
    loop.Meets (dumpWorld env) DumpGuard .fresh ∧
      Rendered n.toNat (loop.run (dumpWorld env) .fresh).1 (loop.run (dumpWorld env) .fresh).2 := by
  have hstart : Rendered 0 0 DumpState.fresh :=
    ⟨Nat.le_refl 0, fun _ h => absurd h (Nat.not_lt_zero _), fun h => absurd h (Nat.lt_irrefl 0)⟩
  have hsteps : ∀ i < n.toNat, ∀ o state, Rendered i o state →
      let result := (dumpRegister (command.bar = 2) command.off i o).run (dumpWorld env) state
      Rendered (i + 1) result.1 result.2 :=
    fun _ _ _ _ h => dump_register_keeps h
  exact ⟨meets_loop hstart (fun i hi _ _ h => dump_register_meets h (by omega)) hsteps,
    run_loop hstart hsteps⟩

theorem dump_registers_fit (command : BarDumpCommand) {n : Int} (hn : n ≤ 64) :
    (dumpRegisters command n).Meets (dumpWorld env) TextFits .fresh := by
  unfold dumpRegisters
  rw [meets_bind]
  exact ⟨(dump_loop_renders env command hn).1.mono text_fits_of_guard, trivial, trivial⟩

/-- The array is a string if there is a register to render, and only then. -/
theorem dump_registers_meets_iff (command : BarDumpCommand) {n : Int} (hn : n ≤ 64) :
    (dumpRegisters command n).Meets (dumpWorld env) DumpGuard .fresh ↔ 1 ≤ n := by
  obtain ⟨hloop, hreached⟩ := dump_loop_renders env command hn
  unfold dumpRegisters
  rw [meets_bind]
  constructor
  · rintro ⟨-, hprinted, -⟩
    by_contra hnone
    -- Without an iteration the array is printed as it was on entry.
    have hzero : n.toNat = 0 := by omega
    rw [hzero] at hprinted
    obtain ⟨length, -, hend, -⟩ := hprinted
    exact absurd hend (Option.some_ne_none nul).symm
  · intro hone
    refine ⟨hloop, ⟨_, ?_, hreached.ended (by omega), hreached.written⟩, trivial⟩
    have hcursor := hreached.cursor
    show _ < 1600
    omega

end Loop

section Window

variable {env : DumpEnvironment} {mmio1 : Bool} {parsed : BarDumpCommand} {count : Nat}

/-- With a device and a command, the dump is made in the window that the command names. -/
theorem dump_window_meets_iff {guard : DumpOp → DumpState → Prop}
    (hiomap : ∀ state, guard .pciIomap state) (hiounmap : ∀ state, guard .pciIounmap state)
    (herr : ∀ state, guard .devErr state) :
    (saa7231BarDumpStore (some mmio1) (some parsed) count).Meets (dumpWorld env) guard .fresh ↔
      ((if parsed.bar = 2 then env.mapped else mmio1) = true →
        (dumpRegisters parsed (if parsed.n > 64 then 64 else parsed.n)).Meets (dumpWorld env) guard
          .fresh) := by
  have hrun : DumpProgram.pciIomap.run (dumpWorld env) .fresh = (env.mapped, .fresh) := rfl
  have hasked : DumpProgram.pciIomap.Meets (dumpWorld env) guard .fresh := ⟨hiomap _, trivial⟩
  unfold saa7231BarDumpStore
  dsimp only
  by_cases hbar : parsed.bar = 2
  · rw [if_pos hbar, if_pos hbar, meets_bind, and_iff_right hasked, hrun]
    by_cases hmapped : env.mapped = true
    · rw [if_pos hmapped, meets_bind]
      exact ⟨fun h _ => h.1, fun h => ⟨h hmapped, hiounmap _, trivial⟩⟩
    · rw [if_neg hmapped]
      exact ⟨fun _ h => absurd h hmapped, fun _ => ⟨herr _, trivial⟩⟩
  · rw [if_neg hbar, if_neg hbar]
    by_cases hmapped : mmio1 = true
    · rw [if_pos hmapped, meets_bind]
      exact ⟨fun h _ => h.1, fun h => ⟨h hmapped, trivial⟩⟩
    · rw [if_neg hmapped]
      exact ⟨fun _ h => absurd h hmapped, fun _ => trivial⟩

theorem clamp_le (n : Int) : (if n > 64 then 64 else n) ≤ 64 := by
  split <;> omega

theorem dump_window_fits :
    (saa7231BarDumpStore (some mmio1) (some parsed) count).Meets (dumpWorld env) TextFits .fresh :=
  (dump_window_meets_iff (fun _ => trivial) (fun _ => trivial) fun _ => trivial).mpr fun _ =>
    dump_registers_fit parsed (clamp_le parsed.n)

theorem dump_window_guarded_iff :
    (saa7231BarDumpStore (some mmio1) (some parsed) count).Meets (dumpWorld env) DumpGuard .fresh ↔
      ((if parsed.bar = 2 then env.mapped else mmio1) = true → 1 ≤ parsed.n) := by
  have hclamp : 1 ≤ (if parsed.n > 64 then 64 else parsed.n) ↔ 1 ≤ parsed.n := by
    split <;> omega
  rw [dump_window_meets_iff (fun _ => trivial) (fun _ => trivial) fun _ => trivial,
    dump_registers_meets_iff parsed (clamp_le parsed.n), hclamp]

end Window

/-- For every device, command and answers of the hardware: each text that the dump writes fits in
the array with its end. What is printed is, moreover, a string that the call has written, if and
only if the command asks for at least one register or its window is not there. -/
theorem bar_dump_iff (env : DumpEnvironment) (device : Option Bool)
    (command : Option BarDumpCommand) (count : Nat) :
    (saa7231BarDumpStore device command count).Meets (dumpWorld env) TextFits .fresh ∧
      ((saa7231BarDumpStore device command count).Meets (dumpWorld env) DumpGuard .fresh ↔
        ∀ mmio1 parsed, device = some mmio1 → command = some parsed →
          (if parsed.bar = 2 then env.mapped else mmio1) = true → 1 ≤ parsed.n) := by
  rcases device with _ | mmio1
  · exact ⟨trivial, fun _ _ _ hdevice => absurd hdevice (Option.some_ne_none _).symm,
      fun _ => trivial⟩
  rcases command with _ | parsed
  · exact ⟨trivial, fun _ _ _ _ hparsed => absurd hparsed (Option.some_ne_none _).symm,
      fun _ => trivial⟩
  refine ⟨dump_window_fits, ?_⟩
  rw [dump_window_guarded_iff]
  constructor
  · intro h mmio1' parsed' hdevice hparsed
    cases hdevice
    cases hparsed
    exact h
  · exact fun h => h mmio1 parsed rfl rfl

/-- A command for no register prints the array as it was on entry. -/
theorem empty_dump_not_string :
    ¬ (saa7231BarDumpStore (some true) (some ⟨0, 0x100, 0⟩) 8).Meets
      (dumpWorld ⟨false, fun _ => 0⟩) DumpGuard .fresh := by
  rw [dump_window_guarded_iff]
  intro h
  have hone : (1 : Int) ≤ 0 := h rfl
  omega

end Saa7231
