import Mathlib.Data.Nat.Notation

/-!
# Register addresses of the bridge

Module bases (`saa7231_mod.h`) and register offsets of the modules the driver programs
(`saa7231_mmu_reg.h`, `saa7231_s2d_reg.h`, `saa7231_str_reg.h`, `saa7231_msi_reg.h`,
`saa7231_dcs_reg.h`). An access is addressed by base plus offset within BAR 0. The error
numbers of the kernel stand at the end.
-/

namespace Saa7231

/-! ## Module bases -/

def Mod.dcsn : Nat := 0x00100000
def Mod.msi : Nat := 0x00108000
def Mod.ds2dAvis : Nat := 0x00122000
def Mod.ds2dItu : Nat := 0x00123000
def Mod.ts2d0Dtv : Nat := 0x00126000
def Mod.ts2d0Extern : Nat := 0x00128000
def Mod.stream : Nat := 0x0012c000
def Mod.mmu : Nat := 0x00141000

/-! ## MMU -/

def mmuDmaConfig (ch : Nat) : Nat := 0x0080 + 0x0004 * ch

def ptaBase (ch : Nat) : Nat := 0x400 + 0x040 * ch

/-- The halves of a page-table address slot. -/
inductive PtaFld where
  | lsb
  | msb
  deriving DecidableEq

def PtaFld.offset : PtaFld → Nat
  | .lsb => 0
  | .msb => 4

/-- `MMU_PTA(fld, i, ch)`; the names `MMU_PTA<i>_LSB(ch)` and `MMU_PTA<i>_MSB(ch)` spell the
same offsets out for each `i`. -/
def mmuPta (fld : PtaFld) (i ch : Nat) : Nat := ptaBase ch + i * 8 + fld.offset

/-! ## Stream-to-DMA engine -/

def s2dS2dCtrl : Nat := 0x0000
def s2dCfgCtrl : Nat := 0x0004
def s2dS2dMaxBStart : Nat := 0x0008
def s2dClkGating : Nat := 0x000C

def s2dChxBase (ch : Nat) : Nat := 0x0100 * ch

def s2dChxCtrl (ch : Nat) : Nat := s2dChxBase ch + 0x0010

def s2dChxB0Ctrl (ch : Nat) : Nat := s2dChxBase ch + 0x0020
def s2dChxB0BLength (ch : Nat) : Nat := s2dChxBase ch + 0x0028
def s2dChxB0Stride (ch : Nat) : Nat := s2dChxBase ch + 0x002C
def s2dChxB0XLength (ch : Nat) : Nat := s2dChxBase ch + 0x0030
def s2dChxB0YLength (ch : Nat) : Nat := s2dChxBase ch + 0x0034

def s2dChxB1Ctrl (ch : Nat) : Nat := s2dChxBase ch + 0x0040
def s2dChxB1BLength (ch : Nat) : Nat := s2dChxBase ch + 0x0048
def s2dChxB1Stride (ch : Nat) : Nat := s2dChxBase ch + 0x004C
def s2dChxB1XLength (ch : Nat) : Nat := s2dChxBase ch + 0x0050
def s2dChxB1YLength (ch : Nat) : Nat := s2dChxBase ch + 0x0054

/-- The offset within a channel of `S2D_CHx_B<i>_B_START_ADDRESS`. -/
def s2dBStart (i : Nat) : Nat :=
  if i = 0 then 0x0024 else if i = 1 then 0x0044 else 0x0080 + 0x0004 * i

/-- `S2D_CHx_B<i>_B_START_ADDRESS(ch)`, for the eight blocks `i < 8`. -/
def s2dChxBStartAddress (i ch : Nat) : Nat := s2dChxBase ch + s2dBStart i

def s2dChxCurrentAddress (ch : Nat) : Nat := s2dChxBase ch + 0x00A0

def s2dIntBase (ch : Nat) : Nat := 0x0fd8 - 0x0018 * ch

def s2dIntClrEnable (ch : Nat) : Nat := s2dIntBase ch + 0x0000
def s2dIntSetEnable (ch : Nat) : Nat := s2dIntBase ch + 0x0004
def s2dIntStatus (ch : Nat) : Nat := s2dIntBase ch + 0x0008
def s2dIntEnable (ch : Nat) : Nat := s2dIntBase ch + 0x000c
def s2dIntClrStatus (ch : Nat) : Nat := s2dIntBase ch + 0x0010

def s2dSwRst : Nat := 0x0FF0
def s2dModuleId : Nat := 0x0FFC

/-! ## Stream module -/

def streamRaTs0LocClgate : Nat := 0x0094
def streamRaTs1LocClgate : Nat := 0x0098
def streamRaTs0ExtClgate : Nat := 0x009C
def streamRaTs1ExtClgate : Nat := 0x00A0
def streamRaTscaExtClgate : Nat := 0x00A4
def streamRaTsmuxClgate : Nat := 0x00B0
def streamRaTsSel : Nat := 0x0200
def streamRaTsOutConfig : Nat := 0x0204
def streamRaPs2p0ExtCfg : Nat := 0x0208
def streamRaPs2p1ExtCfg : Nat := 0x020C
def streamRaPs2pCaExtCfg : Nat := 0x0210

/-! ## Message-signalled interrupts -/

def msiDelayTimer : Nat := 0x0000
def msiIntaPolarity : Nat := 0x0004
def msiConfig (x : Nat) : Nat := 0x0008 + 0x0004 * x
def msiIntStatus (x : Nat) : Nat := 0x0f80 + 0x0004 * x
def msiIntStatusClr (x : Nat) : Nat := 0x0f90 + 0x0004 * x
def msiIntEna (x : Nat) : Nat := 0x0fb0 + 0x0004 * x
def msiIntEnaClr (x : Nat) : Nat := 0x0fc0 + 0x0004 * x
def msiIntEnaSet (x : Nat) : Nat := 0x0fd0 + 0x0004 * x
def msiSwRst : Nat := 0x0FF0
def msiModuleId : Nat := 0x0FFC

/-! ## DCSN bus -/

def dcsnAddr : Nat := 0x000C
def dcsnIntStatus : Nat := 0x0FE0
def dcsnIntClrStatus : Nat := 0x0FE8

/-! ## Error numbers -/

def eio : Int := 5
def enomem : Int := 12
def einval : Int := 22

end Saa7231
