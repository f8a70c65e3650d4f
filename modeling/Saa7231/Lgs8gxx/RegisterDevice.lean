import Saa7231.Lgs8gxx.Download
import Saa7231.Lgs8gxx.OverBus
import Saa7231.Lgs8gxx.Registers

/-!
# A device made of registers

The demodulator takes the first byte after a START as the number of a register, and every further
byte as data for it. On such a device a write of the driver is a write to the register file, a read
brings the byte of the register, and a register that keeps its value is one in the sense of
`Register`. `download_over_bus` follows the firmware from `request_firmware` through the I2C master
into the memory of the device.
-/

namespace Saa7231

open Interaction Program

/-- The registers of a device, and the addresses that it answers to. -/
structure RegisterDevice (ρ : Type) where
  answers : BitVec 7 → Bool
  write : BitVec 8 → BitVec 8 → ρ → ρ
  read : BitVec 8 → ρ → BitVec 8

/-- The device in the middle of messages: whether it is addressed, and the number of a register. -/
structure RegisterLine (ρ : Type) where
  selected : Bool
  pointer : Option (BitVec 8)
  file : ρ

/-- The device on the bus. -/
def RegisterDevice.target {ρ : Type} (device : RegisterDevice ρ) :
    I2cTarget (RegisterLine ρ) where
  start address read line :=
    if device.answers address then
      { line with selected := true, pointer := if read then line.pointer else none }
    else
      { line with selected := false }
  write byte line :=
    if line.selected then
      match line.pointer with
      | none => { line with pointer := some byte }
      | some reg => { line with file := device.write reg byte line.file }
    else
      line
  read line :=
    (if line.selected then (line.pointer.map (device.read · line.file)).getD 0xFF else 0xFF, line)
  stop line := { line with selected := false }

section Transfers

variable {ρ : Type} {device : RegisterDevice ρ} {config : Lgs8gxxConfig}

/-- The device answers to the addresses under which the driver reaches its registers. -/
structure RegisterDevice.Serves (device : RegisterDevice ρ) (config : Lgs8gxxConfig) : Prop where
  write : ∀ reg data, device.answers ((writeMsg config reg data).addr.setWidth 7) = true
  read : ∀ reg, ∀ msg ∈ readMsgs config reg, device.answers (msg.addr.setWidth 7) = true

/-- A message without the flag is a write. -/
theorem write_is_read (addr : BitVec 16) (buf : List (BitVec 8)) :
    (I2cMsg.mk addr 0 buf).isRead = false := by
  show ((0 : BitVec 16) &&& i2cMRd != 0) = false
  decide

/-- One with the flag is a read. -/
theorem read_is_read (addr : BitVec 16) (buf : List (BitVec 8)) :
    (I2cMsg.mk addr i2cMRd buf).isRead = true := by
  show (i2cMRd &&& i2cMRd != 0) = true
  decide

/-! Messages to the device: a number and a byte, a number alone, and a read. -/

section Messages

variable {addr : BitVec 16} (h : device.answers (addr.setWidth 7) = true)

include h

/-- A message of two bytes writes a register. -/
theorem data_message (reg data : BitVec 8) (line : RegisterLine ρ) :
    device.target.message ⟨addr, 0, [reg, data]⟩ line =
      (⟨addr, 0, [reg, data]⟩, ⟨true, some reg, device.write reg data line.file⟩) := by
  simp only [I2cTarget.message, write_is_read, I2cTarget.moveBytes, RegisterDevice.target, h,
    if_true, Bool.false_eq_true, if_false]

/-- A message of one byte selects a register. -/
theorem number_message (reg : BitVec 8) (line : RegisterLine ρ) :
    device.target.message ⟨addr, 0, [reg]⟩ line =
      (⟨addr, 0, [reg]⟩, ⟨true, some reg, line.file⟩) := by
  simp only [I2cTarget.message, write_is_read, I2cTarget.moveBytes, RegisterDevice.target, h,
    if_true, Bool.false_eq_true, if_false]

/-- A read brings back the selected register. -/
theorem read_message (reg byte : BitVec 8) (selected : Bool) (file : ρ) :
    device.target.message ⟨addr, i2cMRd, [byte]⟩ ⟨selected, some reg, file⟩ =
      (⟨addr, i2cMRd, [device.read reg file]⟩, ⟨true, some reg, file⟩) := by
  simp only [I2cTarget.message, read_is_read, I2cTarget.moveBytes, RegisterDevice.target, h,
    if_true, Option.map_some, Option.getD_some]

end Messages

/-- A write of the driver. -/
theorem write_transfer (h : device.Serves config) (reg data : BitVec 8) (line : RegisterLine ρ) :
    device.target.transfer [writeMsg config reg data] line =
      ([writeMsg config reg data], ⟨false, some reg, device.write reg data line.file⟩) := by
  have hmessage : device.target.message (writeMsg config reg data) line = _ :=
    data_message (h.write reg data) reg data line
  rw [I2cTarget.transfer, I2cTarget.messages, I2cTarget.messages, hmessage]
  rfl

/-- A read of the driver. -/
theorem read_transfer (h : device.Serves config) (reg : BitVec 8) (line : RegisterLine ρ) :
    (device.target.transfer (readMsgs config reg) line).2 = ⟨false, some reg, line.file⟩ ∧
      readByte (device.target.transfer (readMsgs config reg) line).1 =
        device.read reg line.file := by
  have hfirst := number_message (h.read reg _ List.mem_cons_self) reg line
  have hsecond := read_message (h.read reg _ (List.mem_cons_of_mem _ List.mem_cons_self)) reg 0
    true line.file
  unfold readMsgs I2cTarget.transfer
  dsimp only
  rw [I2cTarget.messages, I2cTarget.messages, I2cTarget.messages, hfirst]
  dsimp only
  rw [hsecond]
  exact ⟨rfl, rfl⟩

/-! ## A register that keeps its value -/

/-- The register holds what was written to it last. -/
structure RegisterDevice.Keeps (device : RegisterDevice ρ) (reg : BitVec 8) : Prop where
  same : ∀ data file, device.read reg (device.write reg data file) = data
  other : ∀ other data file, other ≠ reg →
    device.read reg (device.write other data file) = device.read reg file

/-- Such a register of the device is a register of the driver's world. -/
theorem register_of_device (h : device.Serves config) {reg : BitVec 8}
    (hkeeps : device.Keeps reg) (firmware : Except Int (List (BitVec 8))) :
    Register config (targetWorld device.target firmware) reg
      (fun line => device.read reg line.file) where
  read line _ := (read_transfer h reg line).2
  keep line := by
    show device.read reg (device.target.transfer (readMsgs config reg) line).2.file = _
    rw [(read_transfer h reg line).1]
  write data line _ := by
    show device.read reg (device.target.transfer [writeMsg config reg data] line).2.file = _
    rw [write_transfer h reg data line, hkeeps.same]
  lost data line := by
    show device.read reg (device.target.transfer [writeMsg config reg data] line).2.file = _ ∨ _
    rw [write_transfer h reg data line, hkeeps.same]
    exact Or.inl rfl
  frame := by
    rintro op line ⟨regs, hreg, haccess⟩
    cases haccess with
    | @write other data hmem =>
        have hne : other ≠ reg := fun heq => hreg (heq ▸ hmem)
        show device.read reg (device.target.transfer [writeMsg config other data] line).2.file = _
        rw [write_transfer h other data line, hkeeps.other other data _ hne]
    | @read other hmem =>
        show device.read reg (device.target.transfer (readMsgs config other) line).2.file = _
        rw [(read_transfer h other line).1]
    | other hother =>
        cases op with
        | i2cTransfer msgs => exact absurd rfl (hother msgs)
        | msleep | usleepRange | requestFirmware | releaseFirmware => rfl

end Transfers

/-- The addresses of the demodulator: those of the upper registers are its own plus 2, except on an
LGS8G75. -/
def demodAnswers (config : Lgs8gxxConfig) (address : BitVec 7) : Bool :=
  address = config.demodAddress.setWidth 7 ∨ address = (config.demodAddress + 0x02).setWidth 7

/-- A device at these addresses. -/
theorem serves_of_answers {ρ : Type} {device : RegisterDevice ρ} {config : Lgs8gxxConfig}
    (h : device.answers = demodAnswers config) : device.Serves config where
  write reg data := by
    rw [h]
    unfold demodAnswers writeMsg
    dsimp only
    rw [decide_eq_true_iff]
    split
    next => right; bv_omega
    next => left; bv_omega
  read reg msg hmsg := by
    have haddr : msg.addr = (if config.prod ≠ lgs8gxxProdLgs8g75 ∧ 0xC0 ≤ reg then
        config.demodAddress + 0x02 else config.demodAddress).setWidth 16 := by
      obtain rfl | hsecond := List.mem_cons.mp hmsg
      · rfl
      · rw [List.mem_singleton.mp hsecond]
    rw [h]
    unfold demodAnswers
    rw [decide_eq_true_iff, haddr]
    split
    next => right; bv_omega
    next => left; bv_omega

/-! ## A device that keeps every register -/

/-- Registers that all keep what was written, at the addresses of the demodulator. -/
def fileDevice (config : Lgs8gxxConfig) : RegisterDevice (BitVec 8 → BitVec 8) where
  answers := demodAnswers config
  write reg data file := Function.update file reg data
  read reg file := file reg

/-- The world of the demodulator with that device, and without firmware. -/
def fileWorld (config : Lgs8gxxConfig) :
    World LgsOp LgsAns (RegisterLine (BitVec 8 → BitVec 8)) :=
  targetWorld (fileDevice config).target (.error (-2))

/-- A line with that device in between transfers. -/
def fileLine (file : BitVec 8 → BitVec 8) : RegisterLine (BitVec 8 → BitVec 8) :=
  ⟨false, none, file⟩

/-- Every register of the file is one. -/
theorem file_register (config : Lgs8gxxConfig) (reg : BitVec 8) :
    Register config (fileWorld config) reg (fun line => line.file reg) := by
  refine register_of_device (serves_of_answers rfl)
    ⟨fun data file => ?_, fun other data file h => ?_⟩ _
  · exact Function.update_self _ _ _
  · exact Function.update_of_ne h.symm _ _

/-- Its reads arrive. -/
theorem file_reads_arrive (config : Lgs8gxxConfig) (reg : BitVec 8) :
    ReadsArrive config (fileWorld config) reg := fun _ => rfl

/-- So do its writes. -/
theorem file_writes_arrive (config : Lgs8gxxConfig) (reg : BitVec 8) :
    WritesArrive config (fileWorld config) reg := fun _ _ => rfl

/-! ## The firmware, over the bus -/

section Firmware

variable {config : Lgs8gxxConfig} {image : List (BitVec 8)}
  {read : BitVec 8 → DownloadPort → BitVec 8}

/-- A device with the download port, at the addresses of the demodulator. -/
def portDevice (config : Lgs8gxxConfig) (read : BitVec 8 → DownloadPort → BitVec 8) :
    RegisterDevice DownloadPort where
  answers := demodAnswers config
  write reg data port := port.write reg data
  read := read

/-- The world of the demodulator with that device. -/
def portDeviceWorld (config : Lgs8gxxConfig) (read : BitVec 8 → DownloadPort → BitVec 8)
    (image : List (BitVec 8)) : World LgsOp LgsAns (RegisterLine DownloadPort) :=
  targetWorld (portDevice config read).target (.ok image)

/-- The download port serves the driver's transfers. -/
theorem port_device_serves (config : Lgs8gxxConfig)
    (read : BitVec 8 → DownloadPort → BitVec 8) : (portDevice config read).Serves config :=
  serves_of_answers rfl

/-- A write of the driver reaches the port. -/
theorem port_device_write (reg data : BitVec 8) (line : RegisterLine DownloadPort) :
    ((lgs8gxxWriteReg config reg data).run (portDeviceWorld config read image) line).2.file =
      line.file.write reg data := by
  show ((portDevice config read).target.transfer [writeMsg config reg data] line).2.file = _
  rw [write_transfer (port_device_serves config read)]
  rfl

/-- A program that does not reach the register of the data leaves the memory alone. -/
theorem port_device_memory {regs : List (BitVec 8)} {α : Type} {program : LgsProgram α}
    (h : Reaches config regs program) (hdata : 0x3C ∉ regs) (line : RegisterLine DownloadPort) :
    (program.run (portDeviceWorld config read image) line).2.file.memory = line.file.memory := by
  refine run_preserves h (fun s => s.file.memory) (fun op s haccess => ?_) line
  cases haccess with
  | @write reg data hreg =>
      have hne : reg ≠ 0x3C := fun heq => hdata (heq ▸ hreg)
      show ((portDevice config read).target.transfer [writeMsg config reg data] s).2.file.memory = _
      rw [write_transfer (port_device_serves config read)]
      exact port_write_memory hne _ _
  | @read reg hreg =>
      show ((portDevice config read).target.transfer (readMsgs config reg) s).2.file.memory = _
      rw [(read_transfer (port_device_serves config read) reg s).1]
  | other hother =>
      cases op with
      | i2cTransfer msgs => exact absurd rfl (hother msgs)
      | msleep | usleepRange | requestFirmware | releaseFirmware => rfl

/-- One byte of the image is stored at the address of its number. -/
theorem port_device_byte {i : Nat} (hi : i < 65536) (data : BitVec 8)
    (line : RegisterLine DownloadPort) :
    ((writeFirmwareByte config i data).run (portDeviceWorld config read image)
      line).2.file.memory = Function.update line.file.memory (BitVec.ofNat 16 i) data := by
  unfold writeFirmwareByte
  rw [run_bind, run_bind, run_bind, run_bind]
  show ((lgs8gxxWriteReg config 0x3C data).run (portDeviceWorld config read image)
    _).2.file.memory = _
  rw [port_device_write, port_device_write, port_device_write, port_device_write,
    port_write_byte, address_halves hi]

variable (config image read) in
/-- With an image the function returns 0, and the download decides what the device holds. -/
theorem port_device_run (line : RegisterLine DownloadPort) :
    (lgs8g75InitData config).run (portDeviceWorld config read image) line =
      (0, ((downloadFirmware config image).run (portDeviceWorld config read image) line).2) := by
  show (downloadFirmware config image >>= fun _ => LgsProgram.releaseFirmware >>= fun _ =>
    pure (0 : Int)).run (portDeviceWorld config read image) line = _
  rw [run_bind]
  rfl

/-- The image is in the memory after the download. -/
theorem port_device_holds (hsize : image.length ≤ 65536) (line : RegisterLine DownloadPort) :
    Holds image line.file.memory image.length
      ((downloadFirmware config image).run (portDeviceWorld config read image)
        line).2.file.memory := by
  rw [downloadFirmware, run_bind, run_bind,
    port_device_memory leave_download_reaches (by decide)]
  refine run_loop (I := fun i _ (s : RegisterLine DownloadPort) =>
    Holds image line.file.memory i s.file.memory) ?_ ?_
  · intro address
    rw [if_neg (Nat.not_lt_zero _), port_device_memory enter_download_reaches (by decide)]
  · intro i hi _ s h
    rw [port_device_byte (by omega)]
    exact h.next (by omega)

/-- The whole way of the firmware, on a controller without delays: the bytes that `request_firmware`
brings go through the words of the I2C master, and are in the memory of the device from address 0
on. The rest of the memory is as it was, and the function returns 0. -/
theorem download_over_bus (i2c : I2c) (config : Lgs8gxxConfig)
    (hseven : config.demodAddress < 0x7E) (image : List (BitVec 8))
    (hsize : image.length ≤ 65536) (read : BitVec 8 → DownloadPort → BitVec 8)
    (port : DownloadPort) {ret : Int} {line : Line (RegisterLine DownloadPort)}
    (hrun : ((lgs8g75InitData config).implement (overBus i2c (.ok image))).run
      (promptWorld i2c (portDevice config read).target) (.fresh ⟨false, none, port⟩) =
        (ret, line)) :
    ret = 0 ∧ Holds image port.memory image.length line.device.file.memory := by
  have hcarried : (lgs8g75InitData config).Only Carried :=
    init_data_reaches.mono fun _ haccess => haccess.carried hseven
  have hrests : (Line.fresh (RegisterLine.mk false none port)).Rests ⟨false, none, port⟩ :=
    ⟨rfl, rfl, rfl⟩
  obtain ⟨hret, hlast⟩ := program_on_prompt hcarried hrests
  have hdevice := port_device_run config image read ⟨false, none, port⟩
  rw [hrun] at hret hlast
  refine ⟨hret.trans (congrArg Prod.fst hdevice), ?_⟩
  rw [hlast.device]
  exact (congrArg Prod.snd hdevice) ▸ port_device_holds hsize _

/-- The first master and the card's demodulator, after a download of two bytes. -/
def twoByteLine : Int × Line (RegisterLine DownloadPort) :=
  ((lgs8g75InitData a328Lgs8g75Config).implement (overBus I2c.plain (.ok [0xAA, 0xBB]))).run
    (promptWorld I2c.plain (portDevice a328Lgs8g75Config fun _ _ => 0).target)
    (.fresh ⟨false, none, ⟨0, 0, fun _ => 0⟩⟩)

/-- Two bytes, through the whole stack. -/
theorem download_over_bus_two : twoByteLine.1 = 0 ∧ twoByteLine.2.device.file.memory 0 = 0xAA ∧
    twoByteLine.2.device.file.memory 1 = 0xBB ∧ twoByteLine.2.device.file.memory 2 = 0 := by
  obtain ⟨hret, hholds⟩ := download_over_bus I2c.plain a328Lgs8g75Config (by decide) [0xAA, 0xBB]
    (by decide) (fun _ _ => 0) ⟨0, 0, fun _ => 0⟩ (Prod.eta twoByteLine).symm
  exact ⟨hret, hholds 0, hholds 1, hholds 2⟩

/-- The card's demodulator, whose registers all read `0x80`, before anything happened. -/
def lockedLine : Line (RegisterLine DownloadPort) := .fresh ⟨false, none, ⟨0, 0, fun _ => 0⟩⟩

/-- The transfer of a read of its lock register. -/
def lockTransfer : (Int × List I2cMsg) × Line (RegisterLine DownloadPort) :=
  (i2cXfer I2c.plain (readMsgs a328Lgs8g75Config 0x13)).run
    (promptWorld I2c.plain (portDevice a328Lgs8g75Config fun _ _ => 0x80).target) lockedLine

end Firmware

end Saa7231
