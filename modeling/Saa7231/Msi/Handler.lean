import Saa7231.Msi.Hardware

/-!
# The interrupt handler, vector by vector

The handler walks over the 128 vectors in the order of their numbers. `Status.after` is the
status array when it comes to a vector: the array read at entry, without the access violation
(vector 52) once any vector was visited. `irq_visit_run` says what the visit of one vector
does.
-/

namespace Saa7231

open Interaction Bus PackedBits

/-- The vector of an access violation on the DCSN bus. -/
def dcsnVector : Nat := 52

/-! ## The status array along the way -/

namespace Status

/-- Some vector below a number is set. -/
def seen (status : Status) : Nat → Bool
  | 0 => false
  | n + 1 => status.seen n || bit status.word n

/-- The array without the access violation. -/
def withoutViolation (status : Status) : Status :=
  { status with word1 := status.word 1 &&& ~~~0x100000 }

/-- The array when the handler comes to a vector. -/
def after (status : Status) (n : Nat) : Status :=
  if status.seen n then status.withoutViolation else status

/-- The handler visits the vector. -/
def visits (status : Status) (n : Nat) : Bool := bit (status.after n).word n

variable {status : Status} {n vector : Nat}

theorem seen_iff : status.seen n = true ↔ ∃ u < n, bit status.word u = true := by
  induction n with
  | zero => simp [seen]
  | succ n ih =>
      rw [seen, Bool.or_eq_true, ih]
      constructor
      · rintro (⟨u, hu, hbit⟩ | hbit)
        · exact ⟨u, Nat.lt_succ_of_lt hu, hbit⟩
        · exact ⟨n, n.lt_succ_self, hbit⟩
      · rintro ⟨u, hu, hbit⟩
        rcases Nat.lt_succ_iff_lt_or_eq.mp hu with hlt | rfl
        · exact Or.inl ⟨u, hlt, hbit⟩
        · exact Or.inr hbit

/-- Bit 20 of word 1 is the bit of the access violation. -/
theorem bit_without_violation :
    bit status.withoutViolation.word vector = true ↔
      bit status.word vector = true ∧ vector ≠ dcsnVector := by
  have hmask : ∀ j < 32, (0x100000 : BitVec 32).getLsbD j = true ↔ j = 20 := by decide
  have hplace : vector % 32 < 32 := Nat.mod_lt _ (by decide)
  unfold bit dcsnVector
  rcases hword : vector / 32 with _ | _ | _ | _ | k
  · show status.word0.getLsbD _ = true ↔ status.word0.getLsbD _ = true ∧ _
    rw [and_iff_left]
    omega
  · show (status.word1 &&& ~~~0x100000).getLsbD _ = true ↔ status.word1.getLsbD _ = true ∧ _
    rw [BitVec.getLsbD_and, BitVec.getLsbD_not, Bool.and_eq_true, Bool.and_eq_true,
      Bool.not_eq_true', ← Bool.not_eq_true, hmask _ hplace]
    refine and_congr_right fun _ => ?_
    rw [decide_eq_true hplace, and_iff_right rfl]
    omega
  · show status.word2.getLsbD _ = true ↔ status.word2.getLsbD _ = true ∧ _
    rw [and_iff_left]
    omega
  · show status.word3.getLsbD _ = true ↔ status.word3.getLsbD _ = true ∧ _
    rw [and_iff_left]
    omega
  · show (0 : BitVec 32).getLsbD _ = true ↔ (0 : BitVec 32).getLsbD _ = true ∧ _
    simp

/-- `SAA7231_IRQNONE` means that no bit is set. -/
theorem bit_of_irq_none (hnone : status.irqNone = true) (vector : Nat) :
    bit status.word vector = false := by
  have hzero : status.word0 ||| status.word1 ||| status.word2 ||| status.word3 = 0#32 :=
    beq_iff_eq.mp hnone
  simp only [BitVec.or_eq_zero_iff] at hzero
  obtain ⟨⟨⟨h0, h1⟩, h2⟩, h3⟩ := hzero
  have hwords : ∀ word, status.word word = 0 := by
    intro word
    rcases word with _ | _ | _ | _ | word
    · exact h0
    · exact h1
    · exact h2
    · exact h3
    · rfl
  rw [bit, hwords]
  exact BitVec.getLsbD_zero

/-- Any other vector keeps its bit. -/
theorem bit_after (hvector : vector ≠ dcsnVector) :
    bit (status.after n).word vector = bit status.word vector := by
  unfold after
  split
  next =>
      rw [Bool.eq_iff_iff, bit_without_violation]
      exact and_iff_left hvector
  next => rfl

/-- A vector is visited when it is set, an access violation only before any other vector. -/
theorem visits_iff : status.visits n = true ↔
    bit status.word n = true ∧ (n = dcsnVector → status.seen n = false) := by
  unfold visits after
  by_cases hseen : status.seen n = true
  · rw [if_pos hseen, bit_without_violation, hseen]
    simp
  · rw [if_neg hseen]
    simp [hseen]

/-- A vector that is not visited leaves the array alone. -/
theorem after_skip (hskip : status.visits n = false) : status.after (n + 1) = status.after n := by
  unfold after
  rw [seen]
  by_cases hseen : status.seen n = true
  · rw [hseen, Bool.true_or]
  · have hclear : bit status.word n = false := by
      unfold visits after at hskip
      rwa [if_neg hseen] at hskip
    rw [hclear, Bool.or_false]

theorem after_visit (hvisit : status.visits n = true) :
    status.after (n + 1) = status.withoutViolation := by
  unfold after
  rw [seen, (visits_iff.mp hvisit).1, Bool.or_true, if_pos rfl]

theorem without_violation_idem :
    status.withoutViolation.withoutViolation = status.withoutViolation := by
  show ({ status with word1 := (status.word1 &&& ~~~0x100000) &&& ~~~0x100000 } : Status) = _
  rw [BitVec.and_assoc, BitVec.and_self]
  rfl

/-- The visit itself drops the access violation. -/
theorem after_without_violation (hvisit : status.visits n = true) :
    (status.after n).withoutViolation = status.after (n + 1) := by
  rw [after_visit hvisit]
  unfold after
  split
  next => exact without_violation_idem
  next => rfl

/-- An array without an access violation does not lose it. -/
theorem without_violation_eq (hclear : ¬ status.word 1 &&& 0x100000 ≠ 0) :
    status.withoutViolation = status := by
  have hword : status.word 1 &&& ~~~0x100000 = status.word 1 := by
    refine BitVec.eq_of_getLsbD_eq fun j hj => ?_
    have hbit : (status.word 1 &&& 0x100000).getLsbD j = false := by
      rw [not_not.mp hclear]
      simp
    rw [BitVec.getLsbD_and] at hbit
    rw [BitVec.getLsbD_and, BitVec.getLsbD_not, decide_eq_true hj]
    cases hset : (status.word 1).getLsbD j with
    | false => rfl
    | true =>
        rw [hset, Bool.true_and] at hbit
        rw [hbit]
        rfl
  unfold withoutViolation
  rw [hword]
  rfl

end Status

/-! ## One visit -/

/-- The test of the handler looks at one bit. -/
theorem shift_and_one_ne_zero (word : BitVec 32) (j : Nat) :
    (word >>> j) &&& 0x1 ≠ 0 ↔ word.getLsbD j = true := by
  have hone : (0x1 : BitVec 32) = BitVec.twoPow 32 0 := rfl
  rw [hone, BitVec.and_twoPow, BitVec.getLsbD_ushiftRight, Nat.add_zero]
  cases word.getLsbD j with
  | false => simp
  | true => exact iff_of_true (by decide) rfl

/-- Bit `j` of word `i` is the bit of vector `i * 32 + j`. -/
theorem bit_of_word (words : Nat → BitVec 32) (i : Nat) {j : Nat} (hj : j < 32) :
    bit words (i * 32 + j) = (words i).getLsbD j := by
  have hword : (i * 32 + j) / 32 = i := by omega
  have hplace : (i * 32 + j) % 32 = j := by omega
  rw [bit, hword, hplace]

variable {H : Type}

/-- A controller that reports the given status words. -/
def Controller.reporting (status : Status) : Controller H :=
  { Controller.reset with pending := status.word }

/-- The controller after the visit of a vector: the status word it belongs to is cleared, and
its event is called if it is registered under its own number. -/
def Controller.serve (controller : Controller H) (events : Events H) (status : Status)
    (vector : Nat) : Controller H :=
  let cleared := { controller with
    pending := clearBits controller.pending (vector / 32)
      ((status.after vector).word (vector / 32)) }
  if (events.eventHandler vector).vector = vector then
    cleared.call (events.eventHandler vector).handler vector
  else
    cleared

section Visit

variable (env : MsiEnvironment) (events : Events H) (controller : Controller H)

/-- The branch of the access violation does not touch the controller. -/
theorem clear_violation_run (status : Status) :
    (clearViolation status : MsiProgram H Status).run (msiWorld env) controller =
      (status.withoutViolation, controller) := by
  unfold clearViolation
  by_cases hviolation : status.word 1 &&& 0x100000 ≠ 0
  · rw [if_pos hviolation]
    simp only [Program.run_bind, Program.run_pure, msi_run_rd]
    rfl
  · rw [if_neg hviolation, Status.without_violation_eq hviolation]
    rfl

theorem dispatch_run (event : IrqEntry H) (vector : Nat) :
    (dispatch event vector).run (msiWorld env) controller =
      ((), if event.vector = vector then controller.call event.handler vector
        else controller) := by
  unfold dispatch
  split <;> rfl

/-- Coming to one vector. -/
theorem irq_visit_run {status : Status} {i j : Nat} (hi : i < 4) (hj : j < 32) :
    (irqVisit events i j (status.after (i * 32 + j))).run (msiWorld env) controller =
      (status.after (i * 32 + j + 1),
        if status.visits (i * 32 + j) then controller.serve events status (i * 32 + j)
        else controller) := by
  have hbit : ((status.after (i * 32 + j)).word i >>> j) &&& 0x1 ≠ 0 ↔
      status.visits (i * 32 + j) = true := by
    rw [shift_and_one_ne_zero, Status.visits, bit_of_word _ _ hj]
  have hword : (i * 32 + j) / 32 = i := by omega
  unfold irqVisit
  by_cases hvisit : status.visits (i * 32 + j) = true
  · have hwrite : controller.write ((status.after (i * 32 + j)).word i)
        (Mod.msi + msiIntStatusClr i) =
        { controller with
          pending := clearBits controller.pending i ((status.after (i * 32 + j)).word i) } := by
      unfold Controller.write
      rw [msi_reg_status_clr hi]
    have hnext : (status.after (i * 32 + j)).withoutViolation =
        status.after (i * 32 + j + 1) := Status.after_without_violation hvisit
    rw [if_pos (hbit.mpr hvisit), if_pos hvisit]
    simp only [Program.run_bind, Program.run_pure, msi_run_wr, hwrite, clear_violation_run, hnext,
      dispatch_run, Controller.serve, hword]
  · rw [if_neg fun h => hvisit (hbit.mp h), if_neg hvisit,
      Status.after_skip (Bool.eq_false_of_not_eq_true hvisit)]
    rfl

/-! ## The whole handler, undisturbed -/

/-- The controller after the handler has come to the first `n` vectors. -/
def Controller.serveAll (controller : Controller H) (events : Events H) (status : Status) :
    Nat → Controller H
  | 0 => controller
  | n + 1 =>
      let served := controller.serveAll events status n
      if status.visits n then served.serve events status n else served

/-- The nested loops come to the vectors in the order of their numbers. -/
theorem irq_service_run {status : Status} (hsome : status.irqNone = false)
    (hplugged : status.unplugged = false) :
    (irqService events status).run (msiWorld env) controller =
      (.handled, controller.serveAll events status 128) := by
  have hinner : ∀ i < saa7231MsiLoops, ∀ st c, st = status.after (i * 32) ∧
      c = controller.serveAll events status (i * 32) →
      ((Program.loop 32 (fun j status => irqVisit events i j status) st).run (msiWorld env) c).1 =
        status.after ((i + 1) * 32) ∧
      ((Program.loop 32 (fun j status => irqVisit events i j status) st).run (msiWorld env) c).2 =
        controller.serveAll events status ((i + 1) * 32) := by
    intro i hi st c hstart
    rw [Nat.add_one_mul]
    refine Program.run_loop (I := fun j st c => st = status.after (i * 32 + j) ∧
      c = controller.serveAll events status (i * 32 + j)) hstart ?_
    rintro j hj _ _ ⟨rfl, rfl⟩
    rw [irq_visit_run env events _ hi hj]
    exact ⟨rfl, rfl⟩
  have houter := Program.run_loop (I := fun i st c => st = status.after (i * 32) ∧
    c = controller.serveAll events status (i * 32)) ⟨rfl, rfl⟩ hinner
  have hall : saa7231MsiLoops * 32 = 128 := rfl
  rw [hall] at houter
  unfold irqService
  rw [hsome, hplugged]
  simp only [Bool.false_eq_true, if_false, Program.run_bind, Program.run_pure]
  exact congrArg (Prod.mk IrqReturn.handled) houter.2

/-- Reading the status words of an undisturbed controller. -/
theorem read_status_run :
    (readStatus : MsiProgram H Status).run (msiWorld env) controller =
      (⟨controller.pending 0, controller.pending 1, controller.pending 2, controller.pending 3⟩,
        controller) := by
  have hread : ∀ word < 4, (rd (Mod.msi + msiIntStatus word) : MsiProgram H _).run
      (msiWorld env) controller = (controller.pending word, controller) :=
    fun word hword => msi_run_rd_status env controller hword
  simp only [readStatus, Program.run_bind, Program.run_pure, hread, Nat.reduceLT]

end Visit

end Saa7231
