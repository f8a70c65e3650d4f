import Saa7231.Driver.Probe
import Saa7231.Interaction.ByteStore
import Saa7231.Interaction.Relabel
import Saa7231.Interaction.Runs

/-!
# The boot image (`saa7231_bsl_autoload`, `saa7231_bsl_load_store`)

The on-die CPU boots from an image that the driver writes into a window of the card. The probe
writes it at 0x4000 unless it reads the first four characters of the image there; the attribute
`bsl_load` writes the image, or what follows its header, at an offset of the user's choice or at 28
candidates. `bsl_scan_survivors` says what a scan leaves, `bsl_autoload_restores_iff` after which uses
of the attribute the load of the probe repairs the image.
-/

namespace Saa7231

open Interaction Program

/-! ## The functions -/

/-- The image for the A328. -/
def saa7231Bsl8323 : List (BitVec 8) :=
  List.map (BitVec.ofNat 8) [
    0x53, 0x54, 0x41, 0x52, 0x54, 0x08, 0x00, 0x00, 0x01, 0x8C, 0x01, 0x05, 0x72, 0x10, 0x00, 0xFF,
    0xFF, 0x02, 0x00, 0x01, 0x00, 0x31, 0x72, 0x00, 0xFF, 0x01, 0x00, 0x9A, 0x00, 0x00, 0x04, 0x5D,
    0x00, 0x24, 0xFF, 0x00, 0x00, 0x00, 0x00, 0x00, 0x00, 0x00, 0x00, 0x00, 0x00, 0x00, 0x00, 0xFF,
    0xFF, 0xFF, 0xFF, 0xFF, 0xFF, 0xFF, 0xFF, 0xFF, 0xFF, 0xFF, 0xD7, 0xFF, 0xFF, 0xFF, 0xFF, 0xFF,
    0xFF, 0xFF, 0xFF, 0xFF, 0xFF, 0xFF, 0x02, 0x70, 0x70, 0x00, 0x00, 0x00, 0xE2, 0x17, 0x10, 0x00,
    0x00, 0x00, 0x00, 0x00, 0x00, 0x00, 0x00, 0x00, 0x00, 0x00, 0x00, 0x00, 0x02, 0x00, 0x00, 0x00,
    0x02, 0x00, 0x00, 0x00, 0x00, 0x00, 0x00, 0x00, 0x00, 0x00, 0x00, 0x00, 0x20, 0x00, 0x00, 0x00,
    0x40, 0x00, 0x00, 0x00, 0x00, 0x02, 0x00, 0x00, 0x00, 0x04, 0x00, 0x00, 0x80, 0x00, 0x00, 0x00,
    0x00, 0x01, 0x00, 0x00, 0x00, 0x10, 0x00, 0x00, 0x00, 0x10, 0x00, 0x00, 0x00, 0x10, 0x00, 0x00,
    0x04, 0x00, 0x00, 0x00, 0x00, 0x00, 0x00, 0x00, 0x00, 0x00, 0x00, 0x00, 0x41, 0x00, 0x00, 0x00,
    0x11, 0x00, 0x00, 0x00, 0x01, 0x10, 0x00, 0x00, 0x31, 0x00, 0x00, 0x00, 0x04, 0x00, 0x00, 0x00,
    0x00, 0x00, 0x00, 0x00, 0x00, 0x00, 0x00, 0x00, 0x10, 0x02, 0x00, 0x05, 0x3D, 0x02, 0x00, 0x00,
    0x02, 0x00, 0x00, 0x00, 0x01, 0x00, 0x7E, 0x00, 0x00, 0x02, 0x00, 0x0C, 0x00, 0xFF, 0xFF, 0x04,
    0x01, 0x01, 0xFF, 0x00, 0x00, 0x00, 0x48, 0xE2, 0x17, 0x10, 0x00, 0x00, 0x00, 0x00, 0x00, 0x02,
    0x00, 0x00, 0x00, 0x02, 0x00, 0x00, 0x00, 0x00, 0x00, 0x00, 0x00, 0x00, 0x00, 0x00, 0x00, 0x20,
    0x00, 0x00, 0x00, 0x40, 0x00, 0x00, 0x00, 0x00, 0x02, 0x00, 0x00, 0x00, 0x04, 0x00, 0x00, 0x80,
    0x00, 0x00, 0x00, 0x00, 0x01, 0x00, 0x00, 0x00, 0x10, 0x00, 0x00, 0x00, 0x10, 0x00, 0x00, 0x00,
    0x10, 0x00, 0x00, 0x00, 0x00, 0x00, 0x00, 0x00, 0x00, 0x00, 0x00, 0x00, 0x00, 0x00, 0x00, 0x04,
    0x06, 0x03, 0x10, 0x10, 0x00, 0x02, 0x04, 0x38, 0x00, 0x49, 0x66, 0xDA, 0x4B, 0x68, 0x00, 0x00,
    0x00, 0x00, 0x00, 0x06, 0x00, 0x21, 0x00, 0xCC, 0x01, 0x00, 0x04, 0x01, 0x00, 0x00, 0x00, 0x00,
    0x00, 0x04, 0x00, 0x0F, 0x02, 0x5C, 0x00, 0x10, 0x03, 0x00, 0x02, 0x40, 0x00, 0x00, 0x00, 0x48,
    0x00, 0x00, 0x00, 0x01, 0x00, 0x04, 0x00, 0xC0, 0x02, 0x02, 0x02, 0x03, 0x10, 0x04, 0x00, 0x05,
    0x80, 0x00, 0x00, 0x00, 0x48, 0x00, 0x00, 0x00, 0x01, 0x00, 0x0A, 0x00, 0x00, 0x02, 0x08, 0x00,
    0x00, 0x00, 0x20, 0x00, 0x00, 0x00, 0x04, 0x10, 0x05, 0x00, 0x01, 0x00, 0x01, 0x00, 0x00, 0x48,
    0x00, 0x00, 0x00, 0x01, 0x00, 0x11, 0x00, 0x32, 0x03, 0x0A, 0x0E, 0x00, 0x00, 0x00, 0x02, 0x01,
    0x00, 0x00, 0x01, 0x86, 0x04, 0x01, 0x05, 0x01, 0x00, 0x00, 0x01, 0x00, 0x11, 0x00, 0x32, 0x03,
    0x0A, 0x0E, 0x00, 0x00, 0x00, 0x02, 0x01, 0x00, 0x00, 0x01, 0x06, 0x04, 0x01, 0x05, 0x01, 0x00,
    0x10, 0x06, 0x00, 0x00, 0x00, 0x00, 0x00, 0x40, 0x48, 0x00, 0x00, 0x00, 0x01, 0x00, 0x02, 0x00,
    0x34, 0x02, 0x00, 0x01, 0x00, 0x01, 0x00, 0x03, 0x00, 0x00, 0x03, 0x08, 0x00]

/-- The length of "START" and the header behind it. -/
def bslStartLen : Nat := 13

def saa7231BslCandidates : List (BitVec 32) :=
  [0x000000, 0x000100, 0x000400, 0x001000, 0x004000,
    0x010000, 0x040000, 0x080000, 0x0C0000, 0x100000,
    0x101000, 0x104000, 0x108000, 0x110000, 0x140000,
    0x180000, 0x200000, 0x240000, 0x280000, 0x2C0000,
    0x2F0000, 0x300000, 0x340000, 0x380000, 0x3C0000,
    0x3F0000, 0x3FF000, 0x3FFC00]

/-- What the functions do to the two windows; `second` is the window that `pci_iomap` maps. -/
inductive BslOp where
  | readl (second : Bool) (offset : Nat)
  | memcpyToio (second : Bool) (offset : Nat) (block : List (BitVec 8))
  | writel (second : Bool) (value : BitVec 32) (offset : Nat)
  | msleep (milliseconds : Nat)
  /-- `pci_iomap` of the second window; the answer says whether it succeeded. -/
  | pciIomap
  | pciIounmap

def BslAns : BslOp → Type
  | .readl _ _ => BitVec 32
  | .pciIomap => Bool
  | _ => Unit

abbrev BslProgram : Type → Type := Program BslOp BslAns

namespace BslProgram

def readl (second : Bool) (offset : Nat) : BslProgram (BitVec 32) :=
  perform (BslOp.readl second offset)
def memcpyToio (second : Bool) (offset : Nat) (block : List (BitVec 8)) : BslProgram Unit :=
  perform (BslOp.memcpyToio second offset block)
def writel (second : Bool) (value : BitVec 32) (offset : Nat) : BslProgram Unit :=
  perform (BslOp.writel second value offset)
def msleep (milliseconds : Nat) : BslProgram Unit := perform (BslOp.msleep milliseconds)
def pciIomap : BslProgram Bool := perform BslOp.pciIomap
def pciIounmap : BslProgram Unit := perform BslOp.pciIounmap

end BslProgram

/-- The dword of four bytes, the low one first. -/
def dword (b0 b1 b2 b3 : BitVec 8) : BitVec 32 :=
  BitVec.ofNat 32 (b0.toNat + 2 ^ 8 * b1.toNat + 2 ^ 16 * b2.toNat + 2 ^ 24 * b3.toNat)

/-- The bytes of a dword, the low one first. -/
def dwordBytes (value : BitVec 32) : List (BitVec 8) :=
  [BitVec.ofNat 8 value.toNat, BitVec.ofNat 8 (value.toNat / 2 ^ 8),
    BitVec.ofNat 8 (value.toNat / 2 ^ 16), BitVec.ofNat 8 (value.toNat / 2 ^ 24)]

/-- The element `p[i]` of the bytes taken as dwords. -/
def dwordAt (p : List (BitVec 8)) (i : Nat) : BitVec 32 :=
  dword (p.getD (i * 4) 0) (p.getD (i * 4 + 1) 0) (p.getD (i * 4 + 2) 0) (p.getD (i * 4 + 3) 0)

/-- The number of dwords of `mode == 3`. -/
def bslDwords (fw : List (BitVec 8)) : Nat := (fw.length - bslStartLen) / 4

/-- The three ways in which `saa7231_bsl_write` writes. -/
def bslTransfer (second : Bool) (off : BitVec 32) (fw : List (BitVec 8)) (mode : Nat) :
    BslProgram Unit :=
  if mode = 2 then do
    BslProgram.memcpyToio second off.toNat (fw.take bslStartLen)
    BslProgram.msleep 20
    BslProgram.memcpyToio second (off.toNat + bslStartLen) (fw.drop bslStartLen)
  else if mode = 3 then
    Program.loop (bslDwords fw)
      (fun i _ => BslProgram.writel second (dwordAt (fw.drop bslStartLen) i) (off.toNat + i * 4)) ()
  else
    BslProgram.memcpyToio second off.toNat fw

/-- `saa7231_bsl_write`. -/
def saa7231BslWrite (second : Bool) (off : BitVec 32) (fw : List (BitVec 8)) (mode : Nat) :
    BslProgram Unit := do
  let _pre ← BslProgram.readl second off.toNat
  bslTransfer second off fw mode
  BslProgram.msleep 200
  let _post ← BslProgram.readl second off.toNat

/-- The loop over the candidates. -/
def bslScan (second : Bool) (fw : List (BitVec 8)) (mode : Nat) :
    List (BitVec 32) → BslProgram Unit
  | [] => pure ()
  | off :: rest => do
      saa7231BslWrite second off fw mode
      bslScan second fw mode rest

/-- `mode`, from the second word of the command. -/
def bslMode (opt : String) : Nat :=
  if opt = "full" then 1 else if opt = "start" then 2 else if opt = "dw" then 3 else 0

section Attribute

variable (kstrtou32 : String → Option (BitVec 32))

/-- What `saa7231_bsl_load_store` does with the first word of the command; `kstrtou32` is `none`
for a text that is no number. -/
def bslCommand (second : Bool) (cmd : String) (mode : Nat) : BslProgram Unit :=
  if cmd = "scan" ∨ cmd = "scan2" then
    bslScan second (saa7231Bsl8323.drop bslStartLen) 0 saa7231BslCandidates
  else if cmd = "scanfull" then
    bslScan second saa7231Bsl8323 mode saa7231BslCandidates
  else match kstrtou32 cmd with
    | none => pure ()
    | some off =>
        if mode ≠ 0 then saa7231BslWrite second off saa7231Bsl8323 mode
        else saa7231BslWrite second off (saa7231Bsl8323.drop bslStartLen) 0

/-- `saa7231_bsl_load_store`. The device is there or not, and its first window is mapped or not;
`words` are the two words that `sscanf` takes from the text, `none` without a first one. -/
def saa7231BslLoadStore (device : Option Bool) (words : Option (String × String)) (count : Nat) :
    BslProgram Int :=
  match device, words with
  | none, _ | some false, _ => pure (-enodev)
  | some true, none => pure (-einval)
  | some true, some (cmd, opt) => do
      if opt = "2" then
        if ← BslProgram.pciIomap then
          bslCommand kstrtou32 true cmd (bslMode opt)
          BslProgram.pciIounmap
          return count
        else
          return -enomem
      else
        bslCommand kstrtou32 false cmd (bslMode opt)
        return count

end Attribute

/-- "STAR" as `readl` returns it. -/
def star : BitVec 32 := 0x52415453

/-- `saa7231_bsl_autoload`. -/
def saa7231BslAutoload (device : Option Bool) : BslProgram Int :=
  match device with
  | none | some false => pure (-einval)
  | some true => do
      if (← BslProgram.readl false 0x4000) = star then
        return 0
      else
        BslProgram.memcpyToio false 0x4000 (saa7231Bsl8323.take bslStartLen)
        BslProgram.msleep 20
        BslProgram.memcpyToio false (0x4000 + bslStartLen) (saa7231Bsl8323.drop bslStartLen)
        BslProgram.msleep 1000
        if (← BslProgram.readl false 0x4000) = star then
          return 0
        else
          return -eio

/-! ### In the probe -/

/-- The operations on the first window as the probe performs them. -/
def probeOp : BslOp → BusOp DriverOp
  | .readl _ offset => .rd offset
  | .memcpyToio _ offset block => .extra (.command (.memcpyToio offset block))
  | .writel _ value offset => .wr value offset
  | .msleep milliseconds => .delay milliseconds
  | .pciIomap | .pciIounmap => .delay 0

def probeAnswer : (op : BslOp) → BusAns DriverAns (probeOp op) → BslAns op
  | .readl _ _, reply => reply
  | .pciIomap, _ => false
  | .memcpyToio _ _ _, _ | .writel _ _ _, _ | .msleep _, _ | .pciIounmap, _ => ()

/-- What the probe performs is this load, among its other operations. -/
theorem bsl_autoload_probe {config : DriverConfig} (himage : config.bslImage = saa7231Bsl8323) :
    Driver.bslAutoload config =
      (saa7231BslAutoload (some true)).relabel probeOp probeAnswer := by
  have hcheck (magic : BitVec 32) : (pure (if magic = star then 0 else -eio) : DriverProgram Int) =
      if magic = star then pure 0 else pure (-eio) := apply_ite pure _ _ _
  unfold Driver.bslAutoload saa7231BslAutoload
  rw [himage]
  simp only [relabel_bind, relabel_ite]
  simp only [show (0x52415453 : BitVec 32) = star from rfl, hcheck]
  rfl

/-! ## The windows -/

/-- The bytes in the two windows as the driver wrote them, and the number of calls so far. -/
structure BslState where
  memory : Bool → Nat → BitVec 8
  calls : Nat

/-- Whether the second window can be mapped, and what the windows read as. -/
structure BslEnvironment where
  mapped : BslState → Bool
  reading : BslState → Bool → Nat → BitVec 32

/-- One more call. -/
def BslState.tick (state : BslState) : BslState := { state with calls := state.calls + 1 }

/-- A block in a window. -/
def BslState.write (state : BslState) (second : Bool) (offset : Nat) (block : List (BitVec 8)) :
    BslState where
  memory := Function.update state.memory second (store (state.memory second) offset block)
  calls := state.calls + 1

def bslWorld (env : BslEnvironment) : World BslOp BslAns BslState where
  answer op state := match op with
    | .readl second offset => env.reading state second offset
    | .pciIomap => env.mapped state
    | .memcpyToio _ _ _ | .writel _ _ _ | .msleep _ | .pciIounmap => ()
  after op state := match op with
    | .memcpyToio second offset block => state.write second offset block
    | .writel second value offset => state.write second offset (dwordBytes value)
    | .readl _ _ | .msleep _ | .pciIomap | .pciIounmap => state.tick

/-- The memory of a window is the one before with the addresses written, and the other window is as
before. -/
def Wrote (second : Bool) (addresses : List Nat) (block : List (BitVec 8))
    (before after : BslState) : Prop :=
  after.memory second = storeAll (before.memory second) addresses block ∧
    after.memory (!second) = before.memory (!second)

/-- Windows that keep what is written to them. -/
def keepingWindows : BslEnvironment where
  mapped _ := true
  reading state second offset :=
    dword (state.memory second offset) (state.memory second (offset + 1))
      (state.memory second (offset + 2)) (state.memory second (offset + 3))

def blankWindows : BslState where
  memory _ _ := 0
  calls := 0

section Transfer

variable {env : BslEnvironment} {state : BslState} {second : Bool}

/-- What the three ways of writing leave. -/
def transferred (fw : List (BitVec 8)) (mode : Nat) : List (BitVec 8) :=
  if mode = 3 then (fw.drop bslStartLen).take (4 * bslDwords fw) else fw

@[simp] theorem dword_bytes (b0 b1 b2 b3 : BitVec 8) :
    dwordBytes (dword b0 b1 b2 b3) = [b0, b1, b2, b3] := by
  have hbyte {b : BitVec 8} {n : Nat} (h : n % 2 ^ 8 = b.toNat) : BitVec.ofNat 8 n = b :=
    BitVec.eq_of_toNat_eq ((BitVec.toNat_ofNat n 8).trans h)
  unfold dwordBytes dword
  rw [BitVec.toNat_ofNat, hbyte (b := b0) (by omega), hbyte (b := b1) (by omega),
    hbyte (b := b2) (by omega), hbyte (b := b3) (by omega)]

/-- A word determines its bytes. -/
theorem dword_inj {b0 b1 b2 b3 c0 c1 c2 c3 : BitVec 8} (h : dword b0 b1 b2 b3 = dword c0 c1 c2 c3) :
    [b0, b1, b2, b3] = [c0, c1, c2, c3] := by
  rw [← dword_bytes, h, dword_bytes]

/-- The bytes of `p[i]` are the next four of `p`. -/
theorem dword_at_bytes {p : List (BitVec 8)} {i : Nat} (hi : 4 * (i + 1) ≤ p.length) :
    p.take (4 * i) ++ dwordBytes (dwordAt p i) = p.take (4 * (i + 1)) := by
  have hbyte (j : Nat) (hj : j < p.length) : p.take j ++ [p.getD j 0] = p.take (j + 1) := by
    rw [List.take_add_one, List.getD_eq_getElem?_getD, List.getElem?_eq_getElem hj]
    rfl
  unfold dwordAt
  rw [dword_bytes, show 4 * (i + 1) = i * 4 + 1 + 1 + 1 + 1 by omega, ← hbyte _ (by omega),
    ← hbyte _ (by omega), ← hbyte _ (by omega), ← hbyte _ (by omega), Nat.mul_comm 4 i]
  simp only [List.append_assoc]
  rfl

/-! ### What a call leaves -/

/-- Without offsets no window changes. -/
theorem wrote_nothing {after : BslState} {block : List (BitVec 8)}
    (h : after.memory = state.memory) : Wrote second [] block state after := by
  constructor
  · rw [h]
    rfl
  · rw [h]

/-- Blocks are written one after the other. -/
theorem Wrote.trans {middle after : BslState} {first rest : List Nat} {block : List (BitVec 8)}
    (hfirst : Wrote second first block state middle)
    (hrest : Wrote second rest block middle after) :
    Wrote second (first ++ rest) block state after := by
  refine ⟨?_, hrest.2.trans hfirst.2⟩
  rw [hrest.1, hfirst.1]
  exact List.foldl_append.symm

/-- The calls that only read, wait or map. -/
theorem Wrote.of_memory {middle after : BslState} {addresses : List Nat}
    {block : List (BitVec 8)} (h : Wrote second addresses block state middle)
    (hsame : after.memory = middle.memory) : Wrote second addresses block state after := by
  constructor
  · rw [hsame, h.1]
  · rw [hsame, h.2]

/-- A block lands at its offset of the window that is selected. -/
theorem write_memory_self (offset : Nat) (block : List (BitVec 8)) :
    (state.write second offset block).memory second = store (state.memory second) offset block :=
  Function.update_self ..

/-- The other window stays as it is. -/
theorem write_memory_other (offset : Nat) (block : List (BitVec 8)) :
    (state.write second offset block).memory (!second) = state.memory (!second) :=
  Function.update_of_ne (by cases second <;> decide) ..

/-- A single block. -/
theorem wrote_write (offset : Nat) (block : List (BitVec 8)) :
    Wrote second [offset] block state (state.write second offset block) :=
  ⟨write_memory_self offset block, write_memory_other offset block⟩

/-- A block behind the one that was written. -/
theorem Wrote.append {after : BslState} {offset : Nat} {block : List (BitVec 8)}
    (h : Wrote second [offset] block state after) (rest : List (BitVec 8)) :
    Wrote second [offset] (block ++ rest) state
      (after.write second (offset + block.length) rest) := by
  constructor
  · rw [write_memory_self, h.1]
    exact store_append
  · rw [write_memory_other, h.2]

/-- The loop over the words writes the whole words of the image. -/
theorem run_bsl_dwords (off : Nat) (p : List (BitVec 8)) (n : Nat) (hn : 4 * n ≤ p.length) :
    Wrote second [off] (p.take (4 * n)) state
      ((Program.loop n (fun i _ => BslProgram.writel second (dwordAt p i) (off + i * 4)) ()).run
        (bslWorld env) state).2 := by
  refine run_loop (I := fun i _ s => Wrote second [off] (p.take (4 * i)) state s) ?_ ?_
  · exact ⟨store_nil.symm, rfl⟩
  · intro i hi _ s hwrote
    have hlength : (p.take (4 * i)).length = i * 4 := by
      rw [List.length_take]
      omega
    rw [← dword_at_bytes (show 4 * (i + 1) ≤ p.length by omega), ← hlength]
    exact hwrote.append _

/-- The header and, after a while, the rest. -/
theorem wrote_header_first (offset : Nat) {fw : List (BitVec 8)} (hfw : bslStartLen ≤ fw.length) :
    Wrote second [offset] fw state ((state.write second offset (fw.take bslStartLen)).tick.write
      second (offset + bslStartLen) (fw.drop bslStartLen)) := by
  have hlength : (fw.take bslStartLen).length = bslStartLen := by
    rw [List.length_take]
    exact Nat.min_eq_left hfw
  have hheader : Wrote second [offset] (fw.take bslStartLen) state
      (state.write second offset (fw.take bslStartLen)).tick := wrote_write _ _
  have hwrote := hheader.append (fw.drop bslStartLen)
  rwa [hlength, List.take_append_drop] at hwrote

/-- One transfer writes the part of the image that its mode selects. -/
theorem run_bsl_transfer (off : BitVec 32) {fw : List (BitVec 8)} (hfw : bslStartLen ≤ fw.length)
    (mode : Nat) :
    Wrote second [off.toNat] (transferred fw mode) state
      ((bslTransfer second off fw mode).run (bslWorld env) state).2 := by
  unfold bslTransfer transferred
  by_cases hstart : mode = 2
  · rw [if_pos hstart, if_neg (by omega)]
    exact wrote_header_first off.toNat hfw
  rw [if_neg hstart]
  by_cases hdwords : mode = 3
  · rw [if_pos hdwords, if_pos hdwords]
    refine run_bsl_dwords off.toNat (fw.drop bslStartLen) (bslDwords fw) ?_
    rw [List.length_drop]
    exact Nat.mul_div_le ..
  · rw [if_neg hdwords, if_neg hdwords]
    exact wrote_write _ _

/-- The readings around the transfer change nothing. -/
theorem run_bsl_write (off : BitVec 32) {fw : List (BitVec 8)} (hfw : bslStartLen ≤ fw.length)
    (mode : Nat) :
    Wrote second [off.toNat] (transferred fw mode) state
      ((saa7231BslWrite second off fw mode).run (bslWorld env) state).2 := by
  have hwrote : Wrote second [off.toNat] (transferred fw mode) state.tick
      ((bslTransfer second off fw mode).run (bslWorld env) state.tick).2 :=
    run_bsl_transfer off hfw mode
  unfold saa7231BslWrite
  rw [run_bind, run_bind]
  exact hwrote.of_memory rfl

/-- The scan writes that part at every offset. -/
theorem run_bsl_scan {fw : List (BitVec 8)} (hfw : bslStartLen ≤ fw.length) (mode : Nat)
    (offs : List (BitVec 32)) :
    Wrote second (offs.map BitVec.toNat) (transferred fw mode) state
      ((bslScan second fw mode offs).run (bslWorld env) state).2 := by
  induction offs generalizing state with
  | nil => exact wrote_nothing rfl
  | cons off rest ih =>
      rw [bslScan, run_bind]
      exact (run_bsl_write off hfw mode).trans ih

end Transfer

/-! ## The calls -/

/-- What the loader is asked to do. -/
inductive LoaderCall where
  /-- A write to `bsl_load`. -/
  | load (words : Option (String × String)) (count : Nat)
  /-- The load of the probe. -/
  | autoload

def LoaderCall.program (kstrtou32 : String → Option (BitVec 32)) : LoaderCall → BslProgram Int
  | .load words count => saa7231BslLoadStore kstrtou32 (some true) words count
  | .autoload => saa7231BslAutoload (some true)

/-- The windows after a call. -/
def loaderStep (env : BslEnvironment) (kstrtou32 : String → Option (BitVec 32)) (state : BslState)
    (call : LoaderCall) : BslState :=
  ((call.program kstrtou32).run (bslWorld env) state).2

/-- The image behind its header. -/
def bslPayload : List (BitVec 8) := saa7231Bsl8323.drop bslStartLen

/-- The offsets that a command writes at. -/
def commandOffsets (kstrtou32 : String → Option (BitVec 32)) (cmd : String) : List (BitVec 32) :=
  if cmd = "scan" ∨ cmd = "scan2" ∨ cmd = "scanfull" then saa7231BslCandidates
  else (kstrtou32 cmd).toList

/-- What it leaves there. -/
def commandBlock (cmd opt : String) : List (BitVec 8) :=
  if cmd = "scan" ∨ cmd = "scan2" then bslPayload
  else if opt = "dw" then bslPayload
  else if cmd = "scanfull" ∨ opt = "full" ∨ opt = "start" then saa7231Bsl8323
  else bslPayload

section Attribute

variable {env : BslEnvironment} {kstrtou32 : String → Option (BitVec 32)} {state : BslState}

/-- The image has 461 bytes. -/
theorem bsl_image_length : saa7231Bsl8323.length = 461 := by decide +kernel

/-- Its header is part of it. -/
theorem bsl_header_fits : bslStartLen ≤ saa7231Bsl8323.length := by
  rw [bsl_image_length]
  decide

/-- The payload is a multiple of a dword, so that `dw` leaves all of it. -/
theorem transferred_dwords : transferred saa7231Bsl8323 3 = bslPayload := by
  decide +kernel

/-- Only one option transfers words. -/
theorem bsl_mode_dwords {opt : String} : bslMode opt = 3 ↔ opt = "dw" := by
  unfold bslMode
  constructor
  · intro h
    split at h
    next => omega
    next =>
      split at h
      next => omega
      next =>
        split at h
        next hdw => exact hdw
        next => omega
  · rintro rfl
    rfl

/-- Every other known option transfers something else. -/
theorem bsl_mode_zero {opt : String} :
    bslMode opt ≠ 0 ↔ opt = "full" ∨ opt = "start" ∨ opt = "dw" := by
  unfold bslMode
  split
  next hfull => exact iff_of_true (by decide) (Or.inl hfull)
  next hfull =>
    split
    next hstart => exact iff_of_true (by decide) (Or.inr (Or.inl hstart))
    next hstart =>
      split
      next hdw => exact iff_of_true (by decide) (Or.inr (Or.inr hdw))
      next hdw => exact iff_of_false (by decide) (by tauto)

/-- The option decides whether the header goes with the payload. -/
theorem transferred_image (opt : String) :
    transferred saa7231Bsl8323 (bslMode opt) =
      if opt = "dw" then bslPayload else saa7231Bsl8323 := by
  split
  next hdw => rw [bsl_mode_dwords.mpr hdw, transferred_dwords]
  next hdw => exact if_neg fun hmode => hdw (bsl_mode_dwords.mp hmode)

/-- A command writes its block at each of its offsets. -/
theorem run_bsl_command (second : Bool) (cmd opt : String) :
    Wrote second ((commandOffsets kstrtou32 cmd).map BitVec.toNat) (commandBlock cmd opt) state
      ((bslCommand kstrtou32 second cmd (bslMode opt)).run (bslWorld env) state).2 := by
  have hpayload : bslStartLen ≤ bslPayload.length := by
    rw [bslPayload, List.length_drop, bsl_image_length]
    decide
  unfold bslCommand commandOffsets commandBlock
  by_cases hscan : cmd = "scan" ∨ cmd = "scan2"
  · rw [if_pos hscan, if_pos (hscan.imp_right Or.inl), if_pos hscan]
    exact run_bsl_scan hpayload 0 saa7231BslCandidates
  rw [if_neg hscan, if_neg hscan]
  by_cases hfull : cmd = "scanfull"
  · rw [if_pos hfull, if_pos (Or.inr (Or.inr hfull)), if_pos (Or.inl hfull), ← transferred_image]
    exact run_bsl_scan bsl_header_fits (bslMode opt) saa7231BslCandidates
  have hnumber : ¬ (cmd = "scan" ∨ cmd = "scan2" ∨ cmd = "scanfull") := fun h =>
    h.elim (fun h => hscan (Or.inl h)) fun h => h.elim (fun h => hscan (Or.inr h)) hfull
  rw [if_neg hfull, if_neg hnumber]
  cases kstrtou32 cmd with
  | none => exact wrote_nothing rfl
  | some off =>
      dsimp only [Option.toList]
      by_cases hmode : bslMode opt ≠ 0
      · have hblock : (if opt = "dw" then bslPayload
            else if cmd = "scanfull" ∨ opt = "full" ∨ opt = "start" then saa7231Bsl8323
            else bslPayload) = transferred saa7231Bsl8323 (bslMode opt) := by
          rw [transferred_image]
          split
          next => rfl
          next hdw =>
            refine if_pos (Or.inr ?_)
            exact (bsl_mode_zero.mp hmode).imp_right fun h => h.resolve_right hdw
        rw [if_pos hmode, hblock]
        exact run_bsl_write off bsl_header_fits (bslMode opt)
      · have hother := mt bsl_mode_zero.mpr hmode
        have himages : ¬ (cmd = "scanfull" ∨ opt = "full" ∨ opt = "start") := fun h =>
          h.elim hfull fun h => hother (h.imp_right Or.inl)
        rw [if_neg hmode, if_neg fun h => hother (Or.inr (Or.inr h)), if_neg himages]
        exact run_bsl_write off hpayload 0

variable (kstrtou32) in
/-- Which window the second word selects. -/
theorem load_step_wrote (cmd opt : String) (count : Nat)
    (hmapped : opt = "2" → env.mapped state = true) :
    Wrote (decide (opt = "2")) ((commandOffsets kstrtou32 cmd).map BitVec.toNat)
      (commandBlock cmd opt) state
      (loaderStep env kstrtou32 state (.load (some (cmd, opt)) count)) := by
  unfold loaderStep LoaderCall.program saa7231BslLoadStore
  dsimp only
  by_cases hsecond : opt = "2"
  · have hanswer : (BslProgram.pciIomap.run (bslWorld env) state) = (true, state.tick) :=
      Prod.ext (hmapped hsecond) rfl
    have hwrote : Wrote true ((commandOffsets kstrtou32 cmd).map BitVec.toNat)
        (commandBlock cmd opt) state.tick
        ((bslCommand kstrtou32 true cmd (bslMode opt)).run (bslWorld env) state.tick).2 :=
      run_bsl_command true cmd opt
    rw [if_pos hsecond, decide_eq_true hsecond, run_bind, hanswer]
    dsimp only
    rw [if_pos rfl, run_bind, run_bind]
    exact hwrote.of_memory rfl
  · rw [if_neg hsecond, decide_eq_false hsecond, run_bind]
    exact run_bsl_command false cmd opt

/-- A window that cannot be mapped. -/
theorem load_step_unmapped (cmd opt : String) (count : Nat) (hsecond : opt = "2")
    (hmapped : env.mapped state = false) :
    (loaderStep env kstrtou32 state (.load (some (cmd, opt)) count)).memory = state.memory := by
  have hanswer : (BslProgram.pciIomap.run (bslWorld env) state) = (false, state.tick) :=
    Prod.ext hmapped rfl
  unfold loaderStep LoaderCall.program saa7231BslLoadStore
  dsimp only
  rw [if_pos hsecond, run_bind, hanswer]
  rfl

/-- A command leaves the image or the payload. -/
theorem command_block_cases (cmd opt : String) :
    commandBlock cmd opt = saa7231Bsl8323 ∨ commandBlock cmd opt = bslPayload := by
  unfold commandBlock
  split
  next => exact Or.inr rfl
  next =>
    split
    next => exact Or.inr rfl
    next =>
      split
      next => exact Or.inl rfl
      next => exact Or.inr rfl

/-! ### A scan -/

/-- The candidates lie at least 256 bytes apart. -/
theorem bsl_candidates_gap : (saa7231BslCandidates.map BitVec.toNat).Pairwise
    fun earlier later => earlier + 256 ≤ later := by decide

/-- Behind the first, the candidates lie further apart than the image is long. -/
theorem bsl_candidates_apart : (saa7231BslCandidates.tail.map BitVec.toNat).Pairwise
    fun earlier later => earlier + 461 ≤ later := by decide

/-- Blocks are longer than the step of the scan, so that neighbours overlap. -/
theorem bsl_block_length (cmd opt : String) :
    256 < (commandBlock cmd opt).length ∧ (commandBlock cmd opt).length ≤ 461 := by
  obtain hblock | hblock := command_block_cases cmd opt
  · rw [hblock, bsl_image_length]
    decide
  · rw [hblock, bslPayload, List.length_drop, bsl_image_length]
    decide

/-- The second candidate overwrites the block at the first one with other bytes. -/
theorem bsl_block_overlap (cmd opt : String) :
    (commandBlock cmd opt)[256]? ≠ (commandBlock cmd opt)[0]? := by
  have hbytes : saa7231Bsl8323[256]? ≠ saa7231Bsl8323[0]? ∧ bslPayload[256]? ≠ bslPayload[0]? := by
    decide +kernel
  obtain hblock | hblock := command_block_cases cmd opt
  · rw [hblock]
    exact hbytes.1
  · rw [hblock]
    exact hbytes.2

/-- The candidates in a window after the block was written at all of them. -/
theorem candidates_hold_iff (memory : Nat → BitVec 8) {block : List (BitVec 8)}
    (hlong : 256 < block.length) (hshort : block.length ≤ 461) (hbytes : block[256]? ≠ block[0]?)
    {off : BitVec 32} (hoff : off ∈ saa7231BslCandidates) :
    HoldsBlock (storeAll memory (saa7231BslCandidates.map BitVec.toNat) block) off.toNat block ↔
      off ≠ 0 := by
  -- The first candidate is written before the others.
  have htail (off : BitVec 32) (hoff : off ∈ saa7231BslCandidates.tail) :
      HoldsBlock (storeAll memory (saa7231BslCandidates.map BitVec.toNat) block) off.toNat
        block := by
    have hholds : HoldsBlock (storeAll (store memory 0 block) _ block) off.toNat (block.take 461) :=
      holds_store_all_of_gap bsl_candidates_apart (List.mem_map_of_mem hoff)
    rwa [List.take_of_length_le hshort] at hholds
  constructor
  · rintro hholds rfl
    have hfirst := hholds 256 hlong
    have hsecond := htail 0x100 (by decide) 0 (by omega)
    exact hbytes (hfirst.symm.trans hsecond)
  · exact fun hne => htail off ((List.mem_cons.mp hoff).resolve_left hne)

/-- After a scan every candidate holds the block that was written, but the offset 0: of the block
there the next one leaves 256 bytes. What no block covers is as before, and so is the other
window. -/
theorem bsl_scan_survivors {cmd opt : String} {count : Nat}
    (hscan : cmd = "scan" ∨ cmd = "scan2" ∨ cmd = "scanfull")
    (hmapped : opt = "2" → env.mapped state = true) {after : BslState} {second : Bool}
    (hafter : loaderStep env kstrtou32 state (.load (some (cmd, opt)) count) = after)
    (hsecond : decide (opt = "2") = second) :
    (∀ off ∈ saa7231BslCandidates,
      HoldsBlock (after.memory second) off.toNat (commandBlock cmd opt) ↔ off ≠ 0) ∧
    HoldsBlock (after.memory second) 0 ((commandBlock cmd opt).take 256) ∧
    (∀ cell, (∀ off ∈ saa7231BslCandidates,
        cell < off.toNat ∨ off.toNat + (commandBlock cmd opt).length ≤ cell) →
      after.memory second cell = state.memory second cell) ∧
    after.memory (!second) = state.memory (!second) := by
  subst hafter hsecond
  obtain ⟨hlong, hshort⟩ := bsl_block_length cmd opt
  obtain ⟨hmemory, hother⟩ := load_step_wrote kstrtou32 cmd opt count hmapped
  rw [hmemory, show commandOffsets kstrtou32 cmd = saa7231BslCandidates from if_pos hscan]
  refine ⟨fun off hoff => ?_, ?_, fun cell hcell => ?_, hother⟩
  · exact candidates_hold_iff _ hlong hshort (bsl_block_overlap cmd opt) hoff
  · have hfirst : (0 : BitVec 32) ∈ saa7231BslCandidates := by decide
    exact holds_store_all_of_gap bsl_candidates_gap (List.mem_map_of_mem hfirst)
  · refine store_all_outside fun address haddress => ?_
    obtain ⟨off, hoff, rfl⟩ := List.mem_map.mp haddress
    exact hcell off hoff

end Attribute

/-- The second block of the scan is still whole. -/
theorem bsl_scan_survivors_second :
    HoldsBlock ((loaderStep keepingWindows (fun _ => none) blankWindows
      (.load (some ("scan", "")) 5)).memory false) 0x100 bslPayload :=
  ((bsl_scan_survivors (Or.inl rfl) (fun h => absurd h (by decide)) rfl (by decide)).1 0x100
    (by decide)).mpr (by decide)

/-! ## The load of the probe -/

/-- The four characters that the probe looks for. -/
def magicOf (memory : Nat → BitVec 8) : BitVec 32 :=
  dword (memory 0x4000) (memory 0x4001) (memory 0x4002) (memory 0x4003)

/-- The first window reads as what is in it, where the probe reads. -/
def BslEnvironment.Keeps (env : BslEnvironment) : Prop :=
  ∀ state, env.reading state false 0x4000 = magicOf (state.memory false)

/-- A window that begins with the characters holds the whole image. -/
def Trusted (memory : Nat → BitVec 8) : Prop :=
  magicOf memory = star → HoldsBlock memory 0x4000 saa7231Bsl8323

/-- A block at an address that changes the image behind the four characters. The payload may be
written at its own place. -/
def SpoilsAt (block : List (BitVec 8)) (address : Nat) : Prop :=
  0x4004 ≤ address ∧ address < 0x4000 + 461 ∧
    ¬ (address = 0x4000 + bslStartLen ∧ block = bslPayload)

/-- The uses of `bsl_load` that do so in the first window. -/
def LoaderCall.Spoils (kstrtou32 : String → Option (BitVec 32)) : LoaderCall → Prop
  | .load (some (cmd, opt)) _ =>
      opt ≠ "2" ∧ ∃ off ∈ commandOffsets kstrtou32 cmd, SpoilsAt (commandBlock cmd opt) off.toNat
  | .load none _ | .autoload => False

section Magic

variable {memory : Nat → BitVec 8} {block : List (BitVec 8)} {address : Nat}

/-- The word at `0x4000` is the magic exactly if the four characters stand there. -/
theorem magic_iff : magicOf memory = star ↔
    memory 0x4000 = 0x53 ∧ memory 0x4001 = 0x54 ∧ memory 0x4002 = 0x41 ∧ memory 0x4003 = 0x52 := by
  have hstar : star = dword 0x53 0x54 0x41 0x52 := by decide
  constructor
  · intro h
    have hbytes := dword_inj (h.trans hstar)
    simpa using hbytes
  · rintro ⟨h0, h1, h2, h3⟩
    rw [magicOf, h0, h1, h2, h3, hstar]

/-- The characters of the image. -/
theorem magic_of_holds (h : HoldsBlock memory 0x4000 saa7231Bsl8323) : magicOf memory = star := by
  have hbyte (i : Nat) (hi : i < 461) : some (memory (0x4000 + i)) = saa7231Bsl8323[i]? :=
    h i (by rwa [bsl_image_length])
  refine magic_iff.mpr ⟨?_, ?_, ?_, ?_⟩
  · exact Option.some.inj ((hbyte 0 (by omega)).trans (by decide +kernel))
  · exact Option.some.inj ((hbyte 1 (by omega)).trans (by decide +kernel))
  · exact Option.some.inj ((hbyte 2 (by omega)).trans (by decide +kernel))
  · exact Option.some.inj ((hbyte 3 (by omega)).trans (by decide +kernel))

/-- The characters depend on four cells. -/
theorem magic_congr {memory' : Nat → BitVec 8}
    (h : ∀ cell, 0x4000 ≤ cell → cell < 0x4004 → memory' cell = memory cell) :
    magicOf memory' = magicOf memory := by
  unfold magicOf
  rw [h _ (by omega) (by omega), h _ (by omega) (by omega), h _ (by omega) (by omega),
    h _ (by omega) (by omega)]

/-- The first character is not in the image a second time. -/
theorem first_character_once : (0x53 : BitVec 8) ∉ saa7231Bsl8323.tail := by decide +kernel

/-- The image begins with the first character of the magic. -/
theorem image_head : saa7231Bsl8323[0]? = some 0x53 := by decide +kernel

/-- The payload does not begin with one of the characters. -/
theorem payload_head : bslPayload[0]? = some 0x10 := by decide +kernel

/-- The image and the payload over the image, at any other place, differ where they overlap. -/
theorem overlap_differs : ∀ block ∈ [saa7231Bsl8323, bslPayload], ∀ shift ∈ List.range' 4 457,
    shift = bslStartLen ∧ block = bslPayload ∨
      ¬ (saa7231Bsl8323.drop shift).take block.length <+: block := by decide +kernel

/-- The character stands nowhere else in a block. -/
theorem first_character_at (hblock : block = saa7231Bsl8323 ∨ block = bslPayload) {i : Nat}
    (hi : block[i]? = some 0x53) : i = 0 ∧ block = saa7231Bsl8323 := by
  have himage (j : Nat) (hj : saa7231Bsl8323[j]? = some 0x53) : j = 0 := by
    cases j with
    | zero => rfl
    | succ j =>
        rw [← List.getElem?_tail] at hj
        exact absurd (List.mem_of_getElem? hj) first_character_once
  obtain rfl | rfl := hblock
  · exact ⟨himage i hi, rfl⟩
  · rw [bslPayload, List.getElem?_drop] at hi
    exact absurd (himage _ hi) (by unfold bslStartLen; omega)

/-- The images and payloads that a trusted window takes. -/
theorem trusted_store (hblock : block = saa7231Bsl8323 ∨ block = bslPayload)
    (htrusted : Trusted memory) (hspoils : ¬ SpoilsAt block address) :
    Trusted (store memory address block) := by
  intro hmagic
  have hlength := bsl_image_length
  obtain ⟨hfirst, hsecond, hthird, hfourth⟩ := magic_iff.mp hmagic
  by_cases hapart : address + block.length ≤ 0x4000 ∨ 0x4000 + 461 ≤ address
  · refine (htrusted ?_).store_apart (by omega)
    rw [← hmagic]
    exact (magic_congr fun cell _ _ => store_outside (by omega)).symm
  by_cases hover : address ≤ 0x4000
  · -- The first character is one of the block, so that the block is the image in its place.
    obtain ⟨i, hi⟩ := Nat.exists_eq_add_of_le hover
    have hcell : block[i]? = some 0x53 := by
      rw [← store_inside (by omega), ← hi, hfirst]
    obtain ⟨rfl, rfl⟩ := first_character_at hblock hcell
    obtain rfl : address = 0x4000 := hi.symm
    exact holds_store
  by_cases hinside : address < 0x4004
  · -- The block begins with no character but the first.
    have hhead : store memory address block address = 0x53 ∨
        store memory address block address = 0x10 := by
      obtain rfl | rfl := hblock
      · have himage : 0 < saa7231Bsl8323.length := by omega
        exact Or.inl (Option.some.inj ((store_inside himage).trans image_head))
      · have hpayload : 0 < bslPayload.length := by
          rw [bslPayload, List.length_drop]
          unfold bslStartLen
          omega
        exact Or.inr (Option.some.inj ((store_inside hpayload).trans payload_head))
    exfalso
    obtain rfl | rfl | rfl : address = 0x4001 ∨ address = 0x4002 ∨ address = 0x4003 := by omega
    · rw [hsecond] at hhead
      exact absurd hhead (by decide)
    · rw [hthird] at hhead
      exact absurd hhead (by decide)
    · rw [hfourth] at hhead
      exact absurd hhead (by decide)
  · -- The payload in its own place.
    have hplace : address = 0x4000 + bslStartLen ∧ block = bslPayload := by
      by_contra hplace
      exact hspoils ⟨by omega, by omega, hplace⟩
    obtain ⟨rfl, rfl⟩ := hplace
    have hheld : HoldsBlock memory 0x4000 saa7231Bsl8323 := by
      refine htrusted ?_
      rw [← hmagic]
      refine (magic_congr fun cell _ hcell => store_outside (Or.inl ?_)).symm
      unfold bslStartLen
      omega
    have hsame : store memory (0x4000 + bslStartLen) bslPayload = memory :=
      (hheld.drop bslStartLen).store_eq
    rwa [hsame]

/-- A block that changes the image behind the four characters. -/
theorem not_trusted_store (hholds : HoldsBlock memory 0x4000 saa7231Bsl8323)
    (hblock : block = saa7231Bsl8323 ∨ block = bslPayload) (hspoils : SpoilsAt block address) :
    ¬ Trusted (store memory address block) := by
  obtain ⟨hfrom, hto, hplace⟩ := hspoils
  intro htrusted
  have hheld : HoldsBlock (store memory address block) 0x4000 saa7231Bsl8323 := by
    refine htrusted ?_
    rw [← magic_of_holds hholds]
    exact magic_congr fun cell _ _ => store_outside (by omega)
  obtain ⟨shift, rfl⟩ := Nat.exists_eq_add_of_le (show 0x4000 ≤ address by omega)
  have hshift : shift ∈ List.range' 4 457 := List.mem_range'_1.mpr (by omega)
  have hmem : block ∈ [saa7231Bsl8323, bslPayload] := by
    obtain rfl | rfl := hblock
    · exact List.mem_cons_self
    · exact List.mem_cons_of_mem _ List.mem_cons_self
  obtain ⟨hown, rfl⟩ | hdiffers := overlap_differs block hmem shift hshift
  · exact hplace ⟨by rw [hown], rfl⟩
  · refine hdiffers (((hheld.drop shift).take block.length).agree holds_store ?_)
    exact List.length_take_le ..

/-- No candidate lies in the image behind the four characters. -/
theorem candidates_spare : ∀ address ∈ saa7231BslCandidates.map BitVec.toNat,
    ¬ (0x4004 ≤ address ∧ address < 0x4000 + 461) := by decide

/-- An offset that spoils the image is the only one of its command. -/
theorem spoils_single {kstrtou32 : String → Option (BitVec 32)} {cmd : String} {off : BitVec 32}
    (hoff : off ∈ commandOffsets kstrtou32 cmd) (hspoils : SpoilsAt block off.toNat) :
    commandOffsets kstrtou32 cmd = [off] := by
  unfold commandOffsets at hoff ⊢
  split at hoff
  next => exact absurd ⟨hspoils.1, hspoils.2.1⟩ (candidates_spare _ (List.mem_map_of_mem hoff))
  next hnumber =>
    rw [if_neg hnumber, Option.mem_toList.mp hoff]
    rfl

end Magic

section Calls

variable {env : BslEnvironment} {kstrtou32 : String → Option (BitVec 32)} {state : BslState}

/-- On a board that keeps its windows, the word is read as it is in memory. -/
theorem run_readl_keeps (hkeeps : env.Keeps) (state : BslState) :
    (BslProgram.readl false 0x4000).run (bslWorld env) state =
      (magicOf (state.memory false), state.tick) := Prod.ext (hkeeps state) rfl

variable (kstrtou32) in
/-- The load writes the image unless the four characters are there, and it always returns zero. -/
theorem run_bsl_autoload (hkeeps : env.Keeps) :
    ((saa7231BslAutoload (some true)).run (bslWorld env) state).1 = 0 ∧
      (loaderStep env kstrtou32 state .autoload).memory false =
        if magicOf (state.memory false) = star then state.memory false
        else store (state.memory false) 0x4000 saa7231Bsl8323 := by
  unfold loaderStep LoaderCall.program saa7231BslAutoload
  dsimp only
  rw [run_bind, run_readl_keeps hkeeps]
  dsimp only
  by_cases hmagic : magicOf (state.memory false) = star
  · rw [if_pos hmagic, if_pos hmagic]
    exact ⟨rfl, rfl⟩
  · obtain ⟨loaded, hloaded⟩ : ∃ loaded, loaded =
        ((state.tick.write false 0x4000 (saa7231Bsl8323.take bslStartLen)).tick.write false
          (0x4000 + bslStartLen) (saa7231Bsl8323.drop bslStartLen)).tick := ⟨_, rfl⟩
    have hmemory : loaded.memory false =
        store (state.memory false) 0x4000 saa7231Bsl8323 := by
      have hwrote : Wrote false [0x4000] saa7231Bsl8323 state.tick loaded := by
        rw [hloaded]
        exact (wrote_header_first 0x4000 bsl_header_fits).of_memory rfl
      exact hwrote.1
    have hafter : magicOf (loaded.memory false) = star := by
      rw [hmemory]
      exact magic_of_holds holds_store
    have hcheck : (BslProgram.readl false 0x4000 >>= fun magic =>
        if magic = star then pure 0 else pure (-eio) : BslProgram Int).run (bslWorld env) loaded =
          (0, loaded.tick) := by
      rw [run_bind, run_readl_keeps hkeeps]
      dsimp only
      rw [if_pos hafter]
      rfl
    rw [if_neg hmagic, if_neg hmagic, ← hmemory]
    subst hloaded
    exact ⟨congrArg Prod.fst hcheck, congrArg (fun result => result.2.memory false) hcheck⟩

/-- The commands that write in the first window, and the others. -/
theorem load_step_memory (cmd opt : String) (count : Nat) :
    (loaderStep env kstrtou32 state (.load (some (cmd, opt)) count)).memory false =
      if opt = "2" then state.memory false
      else storeAll (state.memory false) ((commandOffsets kstrtou32 cmd).map BitVec.toNat)
        (commandBlock cmd opt) := by
  split
  next hsecond =>
    cases hmapped : env.mapped state with
    | true =>
        have hwrote := load_step_wrote kstrtou32 cmd opt count fun _ => hmapped
        rw [decide_eq_true hsecond] at hwrote
        exact hwrote.2
    | false => exact congrFun (load_step_unmapped cmd opt count hsecond hmapped) false
  next hfirst =>
    obtain ⟨hmemory, -⟩ := load_step_wrote kstrtou32 cmd opt count fun h => absurd h hfirst
    rwa [decide_eq_false hfirst] at hmemory

/-- A block at several addresses. -/
theorem trusted_store_all {memory : Nat → BitVec 8} {block : List (BitVec 8)}
    (hblock : block = saa7231Bsl8323 ∨ block = bslPayload) {addresses : List Nat}
    (htrusted : Trusted memory) (hspare : ∀ address ∈ addresses, ¬ SpoilsAt block address) :
    Trusted (storeAll memory addresses block) := by
  induction addresses generalizing memory with
  | nil => exact htrusted
  | cons address rest ih =>
      obtain ⟨hfirst, hrest⟩ := List.forall_mem_cons.mp hspare
      exact ih (trusted_store hblock htrusted hfirst) hrest

/-- A call keeps the first window trusted, also one that writes into the image while the four
characters are missing. -/
theorem trusted_step (hkeeps : env.Keeps) {call : LoaderCall}
    (htrusted : Trusted (state.memory false))
    (hspare : call.Spoils kstrtou32 → magicOf (state.memory false) ≠ star) :
    Trusted ((loaderStep env kstrtou32 state call).memory false) := by
  match call with
  | .autoload =>
      rw [(run_bsl_autoload kstrtou32 hkeeps).2]
      split
      next => exact htrusted
      next => exact fun _ => holds_store
  | .load none count => exact htrusted
  | .load (some (cmd, opt)) count =>
      rw [load_step_memory]
      split
      next => exact htrusted
      next hfirst =>
        have hblock := command_block_cases cmd opt
        by_cases hspoils : LoaderCall.Spoils kstrtou32 (.load (some (cmd, opt)) count)
        · obtain ⟨-, off, hoff, hat⟩ := id hspoils
          have hsame : magicOf (store (state.memory false) off.toNat (commandBlock cmd opt)) =
              magicOf (state.memory false) :=
            magic_congr fun cell _ hcell => store_outside (Or.inl (hcell.trans_le hat.1))
          rw [spoils_single hoff hat]
          exact fun hmagic => absurd (hsame.symm.trans hmagic) (hspare hspoils)
        · refine trusted_store_all hblock htrusted fun address haddress hat => ?_
          obtain ⟨off, hoff, rfl⟩ := List.mem_map.mp haddress
          exact hspoils ⟨hfirst, off, hoff, hat⟩

/-- A call that spoils the image and leaves the magic makes the memory untrustworthy. -/
theorem not_trusted_step {call : LoaderCall} (htrusted : Trusted (state.memory false))
    (hspoils : call.Spoils kstrtou32) (hmagic : magicOf (state.memory false) = star) :
    ¬ Trusted ((loaderStep env kstrtou32 state call).memory false) := by
  match call, hspoils with
  | .load (some (cmd, opt)) count, ⟨hfirst, off, hoff, hat⟩ =>
      rw [load_step_memory, if_neg hfirst, spoils_single hoff hat]
      exact not_trusted_store (htrusted hmagic) (command_block_cases cmd opt) hat

/-- What the load of the probe does now: it returns zero and leaves the whole image, and one more
load writes nothing. -/
def RestoresImage (env : BslEnvironment) (kstrtou32 : String → Option (BitVec 32))
    (state : BslState) : Prop :=
  ((saa7231BslAutoload (some true)).run (bslWorld env) state).1 = 0 ∧
    HoldsBlock ((loaderStep env kstrtou32 state .autoload).memory false) 0x4000 saa7231Bsl8323 ∧
    (loaderStep env kstrtou32 (loaderStep env kstrtou32 state .autoload) .autoload).memory false =
      (loaderStep env kstrtou32 state .autoload).memory false

/-- The automatic load leaves the image there exactly if the magic can be trusted. -/
theorem restores_iff (hkeeps : env.Keeps) :
    RestoresImage env kstrtou32 state ↔ Trusted (state.memory false) := by
  constructor
  · intro ⟨_, hholds, _⟩ hmagic
    rwa [(run_bsl_autoload kstrtou32 hkeeps).2, if_pos hmagic] at hholds
  · intro htrusted
    have hholds : HoldsBlock ((loaderStep env kstrtou32 state .autoload).memory false) 0x4000
        saa7231Bsl8323 := by
      rw [(run_bsl_autoload kstrtou32 hkeeps).2]
      split
      next hmagic => exact htrusted hmagic
      next => exact holds_store
    refine ⟨(run_bsl_autoload kstrtou32 hkeeps).1, hholds, ?_⟩
    rw [(run_bsl_autoload kstrtou32 hkeeps).2, if_pos (magic_of_holds hholds)]

/-- Whatever is asked of the loader, the load of the probe restores the image at every moment, as
long as no use of `bsl_load` writes into the image behind the four characters while these are there;
after such a use it does not. -/
theorem bsl_autoload_restores_iff (hkeeps : env.Keeps) (htrusted : Trusted (state.memory false))
    (calls : List LoaderCall) :
    Always (loaderStep env kstrtou32) (RestoresImage env kstrtou32) state calls ↔
      Each (loaderStep env kstrtou32)
        (fun state call => call.Spoils kstrtou32 → magicOf (state.memory false) ≠ star)
        state calls := by
  refine @always_iff_each _ _ _ (RestoresImage env kstrtou32)
    (fun state => Trusted (state.memory false)) _ (fun _ _ => True) state calls htrusted
    (fun _ => (restores_iff hkeeps).mpr) ?_ ?_ (each_of_forall fun _ _ => trivial)
  · exact fun _ _ htrusted _ hspare => trusted_step hkeeps htrusted hspare
  · intro state call htrusted _ hbroken hrestores
    obtain ⟨hspoils, hmagic⟩ := Classical.not_imp.mp hbroken
    exact not_trusted_step htrusted hspoils (not_not.mp hmagic) ((restores_iff hkeeps).mp hrestores)

end Calls

/-- After a scan the automatic load does its work. -/
theorem bsl_autoload_restores_after_scan :
    Always (loaderStep keepingWindows fun _ => none) (RestoresImage keepingWindows fun _ => none)
      blankWindows [.load (some ("scan", "")) 5, .autoload] := by
  have hblank : magicOf (blankWindows.memory false) ≠ star := by decide
  refine (bsl_autoload_restores_iff (fun _ => rfl) (fun h => absurd h hblank) _).mpr
    ⟨?_, ?_, trivial⟩
  · intro ⟨_, off, hoff, hat⟩
    exact absurd ⟨hat.1, hat.2.1⟩ (candidates_spare _ (List.mem_map_of_mem hoff))
  · exact fun h => absurd h not_false

end Saa7231
