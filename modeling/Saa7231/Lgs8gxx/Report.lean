import Saa7231.Interaction.Transcript
import Saa7231.Lgs8gxx.Footprint

/-!
# What `lgs8gxx_init` reports

`lgs8gxx_init` drops the result of `lgs8g75_init_data`, and that function drops the results of its
register writes. The only accesses whose failure is reported are the two of
`lgs8gxx_set_mpeg_mode`, to register `0x30` of an LGS8G75. So a result of 0 says nothing about the
firmware, as `missing_firmware_succeeds` shows.
-/

namespace Saa7231

open Interaction Program

/-- A transfer is acknowledged when all its messages went through. -/
def TransferAcknowledged : Exchange LgsOp LgsAns → Prop
  | ⟨.i2cTransfer msgs, answer⟩ => answer.1 = (msgs.length : Int)
  | _ => True

/-- The operation writes a register: a transfer of one message. -/
def LgsOp.IsWrite : LgsOp → Prop
  | .i2cTransfer msgs => msgs.length = 1
  | _ => False

/-- `request_firmware` found an image. -/
def FirmwareFound (steps : List (Exchange LgsOp LgsAns)) : Prop :=
  ∃ image, ⟨.requestFirmware, .ok image⟩ ∈ steps

/-- Every register write was acknowledged. -/
def WritesAcknowledged (steps : List (Exchange LgsOp LgsAns)) : Prop :=
  ∀ step ∈ steps, step.1.IsWrite → TransferAcknowledged step

/-- The result 0 means that the download, whose steps these are, put the whole image there. -/
def Reports (ret : Int) (download : List (Exchange LgsOp LgsAns)) : Prop :=
  ret = 0 → FirmwareFound download ∧ WritesAcknowledged download

/-- An access to the transport stream register of an LGS8G75 was not acknowledged. -/
def ModeFails (steps : List (Exchange LgsOp LgsAns)) : Prop :=
  ∃ step ∈ steps, step.1.reg = some 0x30 ∧ ¬ TransferAcknowledged step

/-! ## The transport stream register -/

section Mode

variable {steps rest : List (Exchange LgsOp LgsAns)} {config : Lgs8gxxConfig}

theorem mode_fails_append : ModeFails (steps ++ rest) ↔ ModeFails steps ∨ ModeFails rest := by
  unfold ModeFails
  simp only [List.mem_append, or_and_right, exists_or]

/-- A part that does not reach the register. -/
theorem not_mode_fails {α : Type} {program : LgsProgram α} {value : α}
    (honly : program.Only (AvoidsReg 0x30)) (h : Produces program steps value) :
    ¬ ModeFails steps := by
  rintro ⟨step, hstep, hreg, -⟩
  exact honly.produces h step hstep hreg

/-- One access to the register fails unless it is acknowledged. -/
theorem mode_fails_singleton {step : Exchange LgsOp LgsAns} (hreg : step.1.reg = some 0x30) :
    ModeFails [step] ↔ ¬ TransferAcknowledged step := by
  unfold ModeFails
  simp only [List.mem_singleton, exists_eq_left, hreg, true_and]

theorem write_mode_reports {data : BitVec 8} {ret : Int}
    (h : Produces (lgs8gxxWriteReg config 0x30 data) steps ret) : ret = 0 ↔ ¬ ModeFails steps := by
  obtain ⟨answer, rest, rfl, hrest⟩ := produces_call.mp h
  obtain ⟨rfl, rfl⟩ := produces_pure.mp hrest
  rw [mode_fails_singleton rfl, not_not]
  show (if answer.1 ≠ 1 then (-1 : Int) else 0) = 0 ↔ answer.1 = 1
  split <;> omega

theorem read_mode_reports {p : BitVec 8} {result : Int × BitVec 8}
    (h : Produces (lgs8gxxReadReg config 0x30 p) steps result) :
    result.1 = 0 ↔ ¬ ModeFails steps := by
  obtain ⟨answer, rest, rfl, hrest⟩ := produces_call.mp h
  obtain ⟨rfl, rfl⟩ := produces_pure.mp hrest
  rw [mode_fails_singleton rfl, not_not]
  show (if answer.1 ≠ 2 then ((-1 : Int), p) else (0, readByte answer.2)).1 = 0 ↔ answer.1 = 2
  split <;> simp_all

/-- `lgs8gxx_set_mpeg_mode` reports exactly the failures of its two accesses. -/
theorem set_mpeg_mode_reports (hprod : config.prod = lgs8gxxProdLgs8g75)
    {stack serial clkPol clkGated : BitVec 8} {err : Int}
    (h : Produces (lgs8gxxSetMpegMode config stack serial clkPol clkGated) steps err) :
    err = 0 ↔ ¬ ModeFails steps := by
  unfold lgs8gxxSetMpegMode at h
  rw [if_pos hprod] at h
  obtain ⟨read, result, rest, rfl, hread, hrest⟩ := produces_bind.mp h
  have hfirst := read_mode_reports hread
  rw [mode_fails_append, not_or, ← hfirst]
  dsimp only at hrest
  split at hrest
  next hret =>
    obtain ⟨rfl, rfl⟩ := produces_pure.mp hrest
    exact iff_of_false hret fun hnone => hret hnone.1
  next hret =>
    obtain ⟨write, ret, last, rfl, hwrite, hlast⟩ := produces_bind.mp hrest
    have hsecond := write_mode_reports hwrite
    have hend : last = [] ∧ err = ret := by
      split at hlast
      next => exact produces_pure.mp hlast
      next hzero =>
        obtain ⟨hnil, herr⟩ := produces_pure.mp hlast
        exact ⟨hnil, herr.trans (not_not.mp hzero).symm⟩
    obtain ⟨rfl, rfl⟩ := hend
    rw [List.append_nil, ← hsecond]
    exact (and_iff_right (not_not.mp hret)).symm

/-! ## The other parts of the set-up -/

/-- What `lgs8gxx_init` does after the download: the transport stream mode decides. -/
theorem set_up_reports (hprod : config.prod = lgs8gxxProdLgs8g75)
    {stack serial clkPol clkGated : BitVec 8} {freq : BitVec 32} {ret : Int}
    (h : Produces (do
      let err ← lgs8gxxSetMpegMode config stack serial clkPol clkGated
      if err ≠ 0 then
        return -eio
      else
        let _ret ← lgs8gxxSetIfFreq config freq
        let _ret ← lgs8gxxSetAdMode config
        return 0) steps ret) : ret = 0 ↔ ¬ ModeFails steps := by
  obtain ⟨mode, err, rest, rfl, hmode, hrest⟩ := produces_bind.mp h
  have hreports := set_mpeg_mode_reports hprod hmode
  rw [mode_fails_append, not_or, ← hreports]
  split at hrest
  next herr =>
    obtain ⟨rfl, rfl⟩ := produces_pure.mp hrest
    exact iff_of_false (by decide) fun hnone => herr hnone.1
  next herr =>
    obtain ⟨input, _, last, rfl, hinput, hlast⟩ := produces_bind.mp hrest
    obtain ⟨adc, _, final, rfl, hadc, hfinal⟩ := produces_bind.mp hlast
    obtain ⟨rfl, rfl⟩ := produces_pure.mp hfinal
    refine iff_of_true rfl ⟨not_not.mp herr, ?_⟩
    rw [List.append_nil, mode_fails_append, not_or]
    exact ⟨not_mode_fails ((set_if_freq_reaches freq).avoids (by decide)) hinput,
      not_mode_fails (set_ad_mode_reaches.avoids (by decide)) hadc⟩

end Mode

/-! ## The whole function -/

/-- For every configuration of an LGS8G75 and every run of `lgs8gxx_init`, with any image and any
failures: the result is 0 exactly when both accesses to the transport stream register went through.
With `download` the part of the run that is `lgs8g75_init_data`, the result says what became of the
firmware exactly when the firmware was found and every write was acknowledged, or when one of those
two accesses failed. -/
theorem init_reports_iff (config : Lgs8gxxConfig) (hprod : config.prod = lgs8gxxProdLgs8g75)
    (stack : BitVec 8) {steps : List (Exchange LgsOp LgsAns)} {ret : Int}
    (h : Produces (lgs8gxxInit config stack) steps ret) :
    ∃ probe download rest data rc, steps = probe ++ (download ++ rest) ∧
      Produces (lgs8gxxReadReg config 0 0) probe data ∧
      Produces (lgs8g75InitData config) download rc ∧
      (ret = 0 ↔ ¬ ModeFails steps) ∧
      (Reports ret download ↔
        (FirmwareFound download ∧ WritesAcknowledged download) ∨ ModeFails steps) := by
  unfold lgs8gxxInit at h
  have hother : config.prod ≠ lgs8gxxProdLgs8913 := by
    rw [hprod]
    decide
  simp only [if_pos hprod, if_neg hother] at h
  obtain ⟨probe, data, _, rfl, hprobe, h⟩ := produces_bind.mp h
  obtain ⟨download, rc, _, rfl, hdownload, h⟩ := produces_bind.mp h
  obtain ⟨vpp, _, setUp, rfl, hvpp, h⟩ := produces_bind.mp h
  have hreports := set_up_reports hprod h
  -- the parts before the mode is set reach other registers
  have hfirst : Reaches config [0x00] (lgs8gxxReadReg config 0 0) := read_reaches (by decide)
  have hvalue : Reaches config [0x26, 0x27] (lgs8g75SetAdcVpp config config.adcVpp) :=
    set_adc_vpp_reaches config.adcVpp
  have hsteps : ModeFails (probe ++ (download ++ (vpp ++ setUp))) ↔ ModeFails setUp := by
    rw [mode_fails_append, mode_fails_append, mode_fails_append,
      or_iff_right (not_mode_fails (hfirst.avoids (by decide)) hprobe),
      or_iff_right (not_mode_fails (init_data_reaches.avoids (by decide)) hdownload),
      or_iff_right (not_mode_fails (hvalue.avoids (by decide)) hvpp)]
  rw [← hsteps] at hreports
  refine ⟨probe, download, vpp ++ setUp, data, rc, rfl, hprobe, hdownload, hreports, ?_⟩
  rw [or_comm, or_iff_not_imp_left, ← hreports]
  exact Iff.rfl

/-- There is no firmware file, and every transfer goes through. -/
def missingFirmware : World LgsOp LgsAns Unit where
  answer op _ := match op with
    | .i2cTransfer msgs => (msgs.length, msgs)
    | .requestFirmware => .error (-2)
    | .msleep _ | .usleepRange _ _ | .releaseFirmware => ()
  after _ state := state

/-- One run to which `init_reports_iff` applies. -/
theorem init_reports_missing :
    ∃ probe download rest data rc,
      (lgs8gxxInit a328Lgs8g75Config 0).transcript missingFirmware () =
        probe ++ (download ++ rest) ∧
      Produces (lgs8gxxReadReg a328Lgs8g75Config 0 0) probe data ∧
      Produces (lgs8g75InitData a328Lgs8g75Config) download rc ∧
      (((lgs8gxxInit a328Lgs8g75Config 0).run missingFirmware ()).1 = 0 ↔
        ¬ ModeFails ((lgs8gxxInit a328Lgs8g75Config 0).transcript missingFirmware ())) ∧
      (Reports ((lgs8gxxInit a328Lgs8g75Config 0).run missingFirmware ()).1 download ↔
        (FirmwareFound download ∧ WritesAcknowledged download) ∨
          ModeFails ((lgs8gxxInit a328Lgs8g75Config 0).transcript missingFirmware ())) :=
  init_reports_iff a328Lgs8g75Config rfl 0 (produces_run missingFirmware _ ())

/-- Without a firmware file the result is 0 all the same. -/
theorem missing_firmware_succeeds :
    ((lgs8gxxInit a328Lgs8g75Config 0).run missingFirmware ()).1 = 0 ∧
      ¬ Reports ((lgs8gxxInit a328Lgs8g75Config 0).run missingFirmware ()).1
        ((lgs8g75InitData a328Lgs8g75Config).transcript missingFirmware ()) := by
  have hzero : ((lgs8gxxInit a328Lgs8g75Config 0).run missingFirmware ()).1 = 0 := rfl
  refine ⟨hzero, fun hreports => ?_⟩
  obtain ⟨⟨image, hfound⟩, -⟩ := hreports hzero
  have hstep := List.mem_singleton.mp hfound
  cases hstep

end Saa7231
