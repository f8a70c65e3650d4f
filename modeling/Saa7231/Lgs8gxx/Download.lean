import Saa7231.Lgs8gxx.Footprint

/-!
# The download port of the LGS8G75

The firmware goes into a memory of 65536 bytes behind three registers: two hold an address, and a
write to the third stores a byte there. The driver computes both halves of the address anew for
every byte. `download_stores_image` says that the image ends up in the memory from address 0 on,
and that the rest of the memory keeps its contents.
-/

namespace Saa7231

open Interaction Program

/-- The address registers and the memory behind the port. -/
structure DownloadPort where
  low : BitVec 8
  high : BitVec 8
  memory : BitVec 16 → BitVec 8

/-- A register is written. -/
def DownloadPort.write (port : DownloadPort) (reg data : BitVec 8) : DownloadPort :=
  if reg = 0x3A then { port with low := data }
  else if reg = 0x3B then { port with high := data }
  else if reg = 0x3C then
    { port with memory := Function.update port.memory (port.high ++ port.low) data }
  else port

/-- The port, and the number of transfers so far. -/
structure PortState where
  port : DownloadPort
  transfers : Nat

/-- The messages arrive at the demodulator; one message of two bytes is a write to a register. -/
def DownloadPort.transfer (port : DownloadPort) (address : BitVec 16) :
    List I2cMsg → DownloadPort
  | [⟨addr, _, [reg, data]⟩] => if addr = address then port.write reg data else port
  | _ => port

/-- A demodulator that accepts every write; `reply` is what the other transfers bring back. -/
def portWorld (config : Lgs8gxxConfig) (image : List (BitVec 8))
    (reply : Nat → Int × List I2cMsg) : World LgsOp LgsAns PortState where
  answer op state := match op with
    | .i2cTransfer msgs => if msgs.length = 1 then (1, msgs) else reply state.transfers
    | .requestFirmware => .ok image
    | .msleep _ | .usleepRange _ _ | .releaseFirmware => ()
  after op state := match op with
    | .i2cTransfer msgs =>
        ⟨state.port.transfer (config.demodAddress.setWidth 16) msgs, state.transfers + 1⟩
    | .msleep _ | .usleepRange _ _ | .requestFirmware | .releaseFirmware => state

variable {config : Lgs8gxxConfig} {image : List (BitVec 8)} {reply : Nat → Int × List I2cMsg}

/-! ## The address -/

/-- The two halves of the counter are the address of the byte. -/
theorem address_halves {i : Nat} (hi : i < 65536) :
    BitVec.ofNat 8 (i >>> 8) ++ BitVec.ofNat 8 (i &&& 0xff) = BitVec.ofNat 16 i := by
  apply BitVec.eq_of_toNat_eq
  have hlow : i &&& 0xff = i % 256 := Nat.and_two_pow_sub_one_eq_mod i 8
  have hhigh : i >>> 8 = i / 256 := Nat.shiftRight_eq_div_pow i 8
  rw [BitVec.toNat_append, hlow, hhigh, BitVec.toNat_ofNat, BitVec.toNat_ofNat, BitVec.toNat_ofNat,
    ← Nat.shiftLeft_add_eq_or_of_lt (Nat.mod_lt _ (by omega)), Nat.shiftLeft_eq]
  omega

/-! ## Writes -/

/-- A write to a register below `0xC0` reaches the port, whatever the product. -/
theorem write_reg_run {reg : BitVec 8} (hreg : reg < 0xC0) (data : BitVec 8) (state : PortState) :
    (lgs8gxxWriteReg config reg data).run (portWorld config image reply) state =
      (0, ⟨state.port.write reg data, state.transfers + 1⟩) := by
  have haddress : (writeMsg config reg data).addr = config.demodAddress.setWidth 16 := by
    unfold writeMsg
    dsimp only
    rw [if_neg fun h => absurd hreg (BitVec.not_lt.mpr h.2)]
  have harrives : state.port.transfer (config.demodAddress.setWidth 16)
      [writeMsg config reg data] = state.port.write reg data := by
    show (if (writeMsg config reg data).addr = _ then _ else _) = _
    rw [if_pos haddress]
  show (0, PortState.mk (state.port.transfer _ [writeMsg config reg data]) _) = _
  rw [harrives]

/-- The writes for one byte, as the port sees them. -/
theorem port_write_byte (port : DownloadPort) (low high data : BitVec 8) :
    ((((port.write 0x38 0x00).write 0x3A low).write 0x3B high).write 0x3C data).memory =
      Function.update port.memory (high ++ low) data := by
  simp [DownloadPort.write]

/-- One byte of the image is stored at the address of its number. -/
theorem write_byte_memory {i : Nat} (hi : i < 65536) (data : BitVec 8) (state : PortState) :
    ((writeFirmwareByte config i data).run (portWorld config image reply) state).2.port.memory =
      Function.update state.port.memory (BitVec.ofNat 16 i) data := by
  have hselect : (0x38 : BitVec 8) < 0xC0 := by decide
  have hlow : (0x3A : BitVec 8) < 0xC0 := by decide
  have hhigh : (0x3B : BitVec 8) < 0xC0 := by decide
  have hstore : (0x3C : BitVec 8) < 0xC0 := by decide
  unfold writeFirmwareByte
  rw [run_bind, write_reg_run hselect, run_bind, write_reg_run hlow, run_bind,
    write_reg_run hhigh, run_bind, write_reg_run hstore, ← address_halves hi]
  exact port_write_byte state.port _ _ data

/-! ## The rest of the download -/

/-- Any register but the one that stores a byte. -/
theorem port_write_memory {reg : BitVec 8} (hreg : reg ≠ 0x3C) (port : DownloadPort)
    (data : BitVec 8) : (port.write reg data).memory = port.memory := by
  unfold DownloadPort.write
  rw [if_neg hreg]
  split
  next => rfl
  next =>
    split
    next => rfl
    next => rfl

/-- A transfer that does not begin with the register that stores a byte leaves the memory alone. -/
theorem transfer_memory {op : LgsOp} (h : AvoidsReg 0x3C op) (state : PortState) :
    ((portWorld config image reply).after op state).port.memory = state.port.memory := by
  cases op with
  | msleep | usleepRange | requestFirmware | releaseFirmware => rfl
  | i2cTransfer msgs =>
      show (state.port.transfer _ msgs).memory = _
      unfold DownloadPort.transfer
      split
      next addr flags reg data =>
        split
        next =>
          have hreg : reg ≠ 0x3C := fun heq => h (congrArg some heq)
          exact port_write_memory hreg state.port data
        next => rfl
      next => rfl

theorem run_memory {α : Type} {program : LgsProgram α} (h : program.Only (AvoidsReg 0x3C))
    (state : PortState) :
    (program.run (portWorld config image reply) state).2.port.memory = state.port.memory :=
  run_preserves h (fun s => s.port.memory) (fun _ s hop => transfer_memory hop s) state

/-! ## The whole image -/

/-- After `i` bytes the memory holds the first `i` bytes of the image. -/
def Holds (image : List (BitVec 8)) (before : BitVec 16 → BitVec 8) (i : Nat)
    (memory : BitVec 16 → BitVec 8) : Prop :=
  ∀ address, memory address =
    if address.toNat < i then image.getD address.toNat 0 else before address

theorem Holds.next {before memory : BitVec 16 → BitVec 8} {i : Nat} (hi : i < 65536)
    (h : Holds image before i memory) :
    Holds image before (i + 1) (Function.update memory (BitVec.ofNat 16 i) (image.getD i 0)) := by
  intro address
  have hnumber : (BitVec.ofNat 16 i).toNat = i := by
    rw [BitVec.toNat_ofNat]
    omega
  by_cases hhere : address = BitVec.ofNat 16 i
  · rw [hhere, Function.update_self, hnumber, if_pos (Nat.lt_succ_self i)]
  · have hne : address.toNat ≠ i := fun heq =>
      hhere (BitVec.eq_of_toNat_eq (heq.trans hnumber.symm))
    rw [Function.update_of_ne hhere, h address]
    congr 1
    exact propext ⟨fun hlt => by omega, fun hlt => by omega⟩

theorem write_firmware_holds (hsize : image.length ≤ 65536) (state : PortState) :
    Holds image state.port.memory image.length
      ((Program.loop image.length (fun i _ => writeFirmwareByte config i (image.getD i 0)) ()).run
        (portWorld config image reply) state).2.port.memory := by
  refine run_loop (I := fun i _ (s : PortState) =>
    Holds image state.port.memory i s.port.memory) ?_ ?_
  · exact fun address => (if_neg (Nat.not_lt_zero _)).symm
  · intro i hi _ s h
    rw [write_byte_memory (by omega)]
    exact h.next (by omega)

/-- The whole download: what comes before the image and after it leaves the memory alone. -/
theorem init_data_holds (hsize : image.length ≤ 65536) (start : PortState) :
    Holds image start.port.memory image.length
      ((lgs8g75InitData config).run (portWorld config image reply) start).2.port.memory := by
  have hentered : (enterDownload config).Only (AvoidsReg 0x3C) :=
    enter_download_reaches.avoids (by decide)
  have hleft : (leaveDownload config).Only (AvoidsReg 0x3C) :=
    leave_download_reaches.avoids (by decide)
  have henter : ((enterDownload config).run (portWorld config image reply) start).2.port.memory =
      start.port.memory := run_memory hentered start
  have hleave : ∀ state,
      ((leaveDownload config).run (portWorld config image reply) state).2.port.memory =
        state.port.memory := run_memory hleft
  show Holds image start.port.memory image.length
    (((downloadFirmware config image >>= fun _ => LgsProgram.releaseFirmware >>= fun _ =>
      pure (0 : Int))).run (portWorld config image reply) start).2.port.memory
  rw [run_bind]
  show Holds image start.port.memory image.length
    ((downloadFirmware config image).run (portWorld config image reply) start).2.port.memory
  rw [downloadFirmware, run_bind, run_bind, hleave, ← henter]
  exact write_firmware_holds hsize _

/-- For every image of at most 65536 bytes, every configuration and every reply to the reads: when
every write is accepted, byte `k` of the image is at address `k` after the download, and every
address from the image's size on is as it was. -/
theorem download_stores_image (config : Lgs8gxxConfig) (image : List (BitVec 8))
    (hsize : image.length ≤ 65536) (reply : Nat → Int × List I2cMsg) (start : PortState) :
    (∀ (k : Nat) (hk : k < image.length),
        ((lgs8g75InitData config).run (portWorld config image reply) start).2.port.memory
          (BitVec.ofNat 16 k) = image[k]) ∧
      ∀ address : BitVec 16, image.length ≤ address.toNat →
        ((lgs8g75InitData config).run (portWorld config image reply) start).2.port.memory address =
          start.port.memory address := by
  have hholds : Holds image start.port.memory image.length
      ((lgs8g75InitData config).run (portWorld config image reply) start).2.port.memory :=
    init_data_holds hsize start
  constructor
  · intro k hk
    have hnumber : (BitVec.ofNat 16 k).toNat = k := by
      rw [BitVec.toNat_ofNat]
      omega
    rw [hholds, hnumber, if_pos hk, ← List.getElem_eq_getD 0]
  · intro address haddress
    rw [hholds, if_neg (Nat.not_lt.mpr haddress)]

/-- The memory after two bytes went to the card's demodulator, which answers no read. -/
def twoByteMemory : BitVec 16 → BitVec 8 :=
  ((lgs8g75InitData a328Lgs8g75Config).run
    (portWorld a328Lgs8g75Config [0xAA, 0xBB] fun _ => (-6, []))
      ⟨⟨0, 0, fun _ => 0⟩, 0⟩).2.port.memory

theorem download_stores_two :
    twoByteMemory 0 = 0xAA ∧ twoByteMemory 1 = 0xBB ∧ twoByteMemory 2 = 0 := by
  have h := download_stores_image a328Lgs8g75Config [0xAA, 0xBB] (by simp) (fun _ => (-6, []))
    ⟨⟨0, 0, fun _ => 0⟩, 0⟩
  exact ⟨h.1 0 (by simp), h.1 1 (by simp), h.2 2 (by simp)⟩

end Saa7231
