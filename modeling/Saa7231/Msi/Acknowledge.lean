import Saa7231.Interaction.Transcript
import Saa7231.Msi.Handler

/-!
# What an interrupt acknowledges

The handler acknowledges the word of a vector when it visits the vector, with the status words
as they are then. The first visit takes the access violation out of word 1. If that visit is in
word 0, the handler comes to word 1 without the bit and never acknowledges it
(`irq_acknowledges_iff`).
-/

namespace Saa7231

open Interaction Bus PackedBits

/-- The transcripts of the interrupt code. -/
abbrev MsiSteps (H : Type) : Type := List (Exchange (BusOp (MsiOp H)) (BusAns (MsiAns H)))

variable {H : Type}

/-- A one was written to the bit of the vector in the clear register of its word. -/
def Acknowledged (steps : MsiSteps H) (vector : Nat) : Prop :=
  ∃ value ∈ writings (Mod.msi + msiIntStatusClr (vector / 32)) steps,
    value.getLsbD (vector % 32) = true

/-- The reads of the status words at the entry of the handler. -/
def Status.entry (status : Status) : MsiSteps H :=
  [⟨.rd (Mod.msi + msiIntStatus 0), status.word0⟩, ⟨.rd (Mod.msi + msiIntStatus 1), status.word1⟩,
    ⟨.rd (Mod.msi + msiIntStatus 2), status.word2⟩,
    ⟨.rd (Mod.msi + msiIntStatus 3), status.word3⟩]

/-- Exactly the vectors that are set were acknowledged. -/
def Status.AcknowledgedBy (status : Status) (steps : MsiSteps H) : Prop :=
  ∀ vector < saa7231MsiVectors, Acknowledged steps vector ↔ bit status.word vector = true

/-! ## Transcripts -/

section Steps

variable {steps rest : MsiSteps H} {vector : Nat}

theorem acknowledged_nil : ¬ Acknowledged ([] : MsiSteps H) vector := by
  rintro ⟨value, hmem, -⟩
  exact absurd hmem List.not_mem_nil

theorem acknowledged_append :
    Acknowledged (steps ++ rest) vector ↔ Acknowledged steps vector ∨ Acknowledged rest vector := by
  simp only [Acknowledged, writings_append, List.mem_append, or_and_right, exists_or]

/-- One write acknowledges the bits of its word. -/
theorem acknowledged_wr {value : BitVec 32} {word : Nat} {answer : Unit} :
    Acknowledged (⟨.wr value (Mod.msi + msiIntStatusClr word), answer⟩ :: steps) vector ↔
      (vector / 32 = word ∧ value.getLsbD (vector % 32) = true) ∨ Acknowledged steps vector := by
  have haddress : Mod.msi + msiIntStatusClr word = Mod.msi + msiIntStatusClr (vector / 32) ↔
      vector / 32 = word := by
    unfold msiIntStatusClr
    omega
  unfold Acknowledged
  rw [writings_wr]
  by_cases hword : vector / 32 = word
  · rw [if_pos (haddress.mpr hword)]
    simp [hword]
  · rw [if_neg fun heq => hword (haddress.mp heq)]
    simp [hword]

/-- Steps that write no clear register. -/
theorem not_acknowledged (hsilent : ∀ word, writings (Mod.msi + msiIntStatusClr word) steps = []) :
    ¬ Acknowledged steps vector := by
  rintro ⟨value, hmem, -⟩
  rw [hsilent] at hmem
  exact absurd hmem List.not_mem_nil

end Steps

/-! ## One visit -/

/-- The branch of the access violation writes a register of the DCSN bus. -/
theorem traces_clear_violation (status : Status) :
    (clearViolation status : MsiProgram H Status).Traces fun next steps =>
      next = status.withoutViolation ∧ ∀ vector, ¬ Acknowledged steps vector := by
  unfold clearViolation
  rw [Program.traces_ite]
  constructor
  · intro hviolation
    simp only [traces_rd_bind, traces_wr_bind, Program.traces_pure]
    refine fun dcsStat dcsAddr => ⟨rfl, fun vector => not_acknowledged fun word => ?_⟩
    have hne : Mod.dcsn + dcsnIntClrStatus ≠ Mod.msi + msiIntStatusClr word := by
      simp only [Mod.dcsn, dcsnIntClrStatus, Mod.msi, msiIntStatusClr]
      omega
    rw [writings_rd, writings_rd, writings_wr, if_neg hne, writings_nil]
  · intro hclear
    exact ⟨(Status.without_violation_eq hclear).symm, fun vector => acknowledged_nil⟩

theorem traces_dispatch (event : IrqEntry H) (n : Nat) :
    (dispatch event n).Traces fun _ steps => ∀ vector, ¬ Acknowledged steps vector := by
  unfold dispatch
  rw [Program.traces_ite]
  exact ⟨fun _ _ vector => not_acknowledged fun _ => rfl, fun _ vector => acknowledged_nil⟩

/-- Coming to one vector acknowledges its word, if it visits the vector. -/
theorem traces_irq_visit (events : Events H) (status : Status) (i : Nat) {j : Nat} (hj : j < 32) :
    (irqVisit events i j (status.after (i * 32 + j))).Traces fun next steps =>
      next = status.after (i * 32 + j + 1) ∧
        ∀ vector, Acknowledged steps vector ↔ status.visits (i * 32 + j) = true ∧
          vector / 32 = i ∧ bit (status.after (i * 32 + j)).word vector = true := by
  have hbit : ((status.after (i * 32 + j)).word i >>> j) &&& 0x1 ≠ 0 ↔
      status.visits (i * 32 + j) = true := by
    rw [shift_and_one_ne_zero, Status.visits, bit_of_word _ _ hj]
  unfold irqVisit
  rw [Program.traces_ite, hbit]
  constructor
  · intro hvisit
    dsimp only
    rw [traces_wr_bind, Program.traces_bind]
    simp only [Program.traces_bind, Program.traces_pure]
    refine (traces_clear_violation _).mono fun next steps hcleared => ?_
    refine (traces_dispatch _ _).mono fun _ rest hdispatched => ⟨?_, fun vector => ?_⟩
    · exact hcleared.1.trans (Status.after_without_violation hvisit)
    · -- Only the write at the beginning of the visit acknowledges anything.
      have hquiet : ¬ Acknowledged (steps ++ (rest ++ [])) vector := by
        rw [acknowledged_append, List.append_nil]
        exact not_or.mpr ⟨hcleared.2 vector, hdispatched vector⟩
      rw [acknowledged_wr, or_iff_left hquiet, and_iff_right hvisit]
      refine and_congr_right fun hword => ?_
      rw [bit, hword]
  · intro hskip
    refine ⟨(Status.after_skip (Bool.eq_false_of_not_eq_true hskip)).symm, fun vector => ?_⟩
    exact iff_of_false acknowledged_nil fun h => hskip h.1

/-! ## All visits -/

/-- Some vector of the same word is visited, while the vector is in the status array. -/
def Status.Answers (status : Status) (n vector : Nat) : Prop :=
  ∃ u < n, status.visits u = true ∧ vector / 32 = u / 32 ∧
    bit (status.after u).word vector = true

theorem Status.answers_succ {status : Status} {n vector : Nat} :
    status.Answers (n + 1) vector ↔ status.Answers n vector ∨
      (status.visits n = true ∧ vector / 32 = n / 32 ∧
        bit (status.after n).word vector = true) := by
  constructor
  · rintro ⟨u, hu, h⟩
    rcases Nat.lt_succ_iff_lt_or_eq.mp hu with hlt | rfl
    · exact Or.inl ⟨u, hlt, h⟩
    · exact Or.inr h
  · rintro (⟨u, hu, h⟩ | h)
    · exact ⟨u, Nat.lt_succ_of_lt hu, h⟩
    · exact ⟨n, n.lt_succ_self, h⟩

/-- The status array and the steps of the handler when it comes to vector `n`. -/
def Status.Tracks (status : Status) (n : Nat) (next : Status) (steps : MsiSteps H) : Prop :=
  next = status.after n ∧ ∀ vector, Acknowledged steps vector ↔ status.Answers n vector

/-- One vector further. -/
theorem Status.Tracks.visit {status next last : Status} {steps rest : MsiSteps H}
    {events : Events H} {i j : Nat} (hj : j < 32) (h : status.Tracks (i * 32 + j) next steps)
    (hrest : Program.Produces (irqVisit events i j next) rest last) :
    status.Tracks (i * 32 + (j + 1)) last (steps ++ rest) := by
  obtain ⟨rfl, hsteps⟩ := h
  obtain ⟨hlast, hvisit⟩ := (traces_irq_visit events status i hj).produces hrest
  refine ⟨hlast, fun vector => ?_⟩
  have hword : (i * 32 + j) / 32 = i := by omega
  rw [acknowledged_append, hsteps, hvisit, ← Nat.add_assoc, Status.answers_succ, hword]

/-- One word further. -/
theorem Status.Tracks.word {status next last : Status} {steps rest : MsiSteps H}
    {events : Events H} {i : Nat} (h : status.Tracks (i * 32) next steps)
    (hrest : Program.Produces (Program.loop 32 (fun j next => irqVisit events i j next) next)
      rest last) : status.Tracks ((i + 1) * 32) last (steps ++ rest) := by
  rw [Nat.add_one_mul]
  refine Program.produces_loop
    (I := fun j next rest => status.Tracks (i * 32 + j) next (steps ++ rest)) ?_ ?_ hrest
  · rw [List.append_nil]
    exact h
  · intro j hj next rest last more hrest hmore
    rw [← List.append_assoc]
    exact hrest.visit hj hmore

/-- The nested loops acknowledge what the visits answer. -/
theorem irq_service_acknowledges {events : Events H} {status : Status} {steps : MsiSteps H}
    {ret : IrqReturn} (hsome : status.irqNone = false) (hplugged : status.unplugged = false)
    (hsteps : Program.Produces (irqService events status) steps ret) (vector : Nat) :
    Acknowledged steps vector ↔ status.Answers saa7231MsiVectors vector := by
  have hinit : status.Tracks (0 * 32) status ([] : MsiSteps H) := by
    refine ⟨rfl, fun vector => iff_of_false acknowledged_nil ?_⟩
    rintro ⟨u, hu, -⟩
    omega
  unfold irqService at hsteps
  rw [hsome, hplugged, if_neg Bool.false_ne_true, if_neg Bool.false_ne_true] at hsteps
  obtain ⟨first, last, rest, rfl, hloops, hend⟩ := Program.produces_bind.mp hsteps
  obtain ⟨rfl, -⟩ := Program.produces_pure.mp hend
  rw [List.append_nil]
  have htracks := Program.produces_loop (I := fun i next steps => status.Tracks (i * 32) next steps)
    hinit (fun i _ next steps last rest h hrest => h.word hrest) hloops
  exact htracks.2 vector

/-- A word is zero when none of its vectors is set. -/
theorem Status.word_zero_iff {status : Status} :
    status.word 0 = 0 ↔ ∀ u < 32, bit status.word u = false := by
  constructor
  · intro hzero u hu
    have hplace : u / 32 = 0 := by omega
    rw [bit, hplace, hzero]
    exact BitVec.getLsbD_zero
  · intro hclear
    refine BitVec.eq_of_getLsbD_eq fun j hj => ?_
    rw [← bit_of_word status.word 0 hj, Nat.zero_mul, Nat.zero_add, hclear j hj]
    exact BitVec.getLsbD_zero.symm

/-- The first of the vectors that are set. -/
theorem Status.exists_first {status : Status} {vector : Nat}
    (hset : bit status.word vector = true) :
    ∃ u ≤ vector, bit status.word u = true ∧ status.seen u = false := by
  have hexists : ∃ u, bit status.word u = true := ⟨vector, hset⟩
  refine ⟨Nat.find hexists, Nat.find_min' hexists hset, Nat.find_spec hexists, ?_⟩
  refine Bool.eq_false_of_not_eq_true fun hseen => ?_
  obtain ⟨w, hw, hearlier⟩ := Status.seen_iff.mp hseen
  exact Nat.find_min hexists hw hearlier

/-- The access violation is answered if it is set and word 0 is zero. -/
theorem Status.answers_violation_iff {status : Status} :
    status.Answers saa7231MsiVectors dcsnVector ↔
      bit status.word dcsnVector = true ∧ status.word 0 = 0 := by
  rw [Status.word_zero_iff]
  constructor
  · rintro ⟨u, hu, hvisit, hword, hbit⟩
    -- The bit is still there, so no vector was set before the visited one.
    have hseen : status.seen u = false := by
      by_contra hsome
      rw [Bool.not_eq_false] at hsome
      rw [Status.after, if_pos hsome, Status.bit_without_violation] at hbit
      exact hbit.2 rfl
    rw [Status.after, if_neg (by simp [hseen])] at hbit
    refine ⟨hbit, fun w hw => ?_⟩
    by_contra hset
    rw [Bool.not_eq_false] at hset
    have hearlier : status.seen u = true :=
      Status.seen_iff.mpr ⟨w, by unfold dcsnVector at hword; omega, hset⟩
    exact Bool.noConfusion (hseen.symm.trans hearlier)
  · rintro ⟨hbit, hzero⟩
    -- The first vector that is set lies in word 1, and its visit writes the bit.
    obtain ⟨u, hhigh, hset, hseen⟩ := Status.exists_first hbit
    have hlow : 32 ≤ u := by
      by_contra hlt
      exact Bool.noConfusion ((hzero u (by omega)).symm.trans hset)
    unfold dcsnVector at hhigh
    refine ⟨u, by unfold saa7231MsiVectors; omega, ?_, by unfold dcsnVector; omega, ?_⟩
    · exact Status.visits_iff.mpr ⟨hset, fun _ => hseen⟩
    · rw [Status.after, if_neg (by simp [hseen])]
      exact hbit

/-- Every set vector is answered, the access violation only if word 0 is zero. -/
theorem Status.answers_iff {status : Status} {vector : Nat} (hvector : vector < saa7231MsiVectors) :
    status.Answers saa7231MsiVectors vector ↔
      bit status.word vector = true ∧ (vector = dcsnVector → status.word 0 = 0) := by
  by_cases hdcsn : vector = dcsnVector
  · subst hdcsn
    rw [Status.answers_violation_iff, forall_prop_of_true rfl]
  · rw [and_iff_left fun heq => absurd heq hdcsn]
    constructor
    · rintro ⟨u, -, -, -, hbit⟩
      rwa [Status.bit_after hdcsn] at hbit
    · intro hbit
      -- The handler answers the vector in its own visit.
      refine ⟨vector, hvector, Status.visits_iff.mpr ⟨hbit, fun heq => absurd heq hdcsn⟩, rfl, ?_⟩
      rwa [Status.bit_after hdcsn]

/-! ## The interrupt handler -/

/-- Every transcript of the handler begins with the status words. -/
theorem produces_irq_handler {events : Events H} {all : MsiSteps H} {ret : IrqReturn} :
    Program.Produces (irqHandler events) all ret ↔ ∃ (status : Status) (steps : MsiSteps H),
      all = status.entry ++ steps ∧ Program.Produces (irqService events status) steps ret := by
  unfold irqHandler readStatus
  simp only [bind_assoc, produces_rd_bind, pure_bind]
  constructor
  · rintro ⟨word0, _, rfl, word1, _, rfl, word2, _, rfl, word3, steps, rfl, h⟩
    exact ⟨⟨word0, word1, word2, word3⟩, steps, rfl, h⟩
  · rintro ⟨⟨word0, word1, word2, word3⟩, steps, rfl, h⟩
    exact ⟨word0, _, rfl, word1, _, rfl, word2, _, rfl, word3, steps, rfl, h⟩

/-- The bit of the access violation in word 1. -/
theorem dcsn_clear_iff {status : Status} :
    status.word 1 &&& 0x100000 = 0 ↔ bit status.word dcsnVector = false := by
  have hmask : (0x100000 : BitVec 32) = BitVec.twoPow 32 20 := rfl
  rw [hmask, BitVec.and_twoPow]
  show _ ↔ (status.word 1).getLsbD 20 = false
  cases (status.word 1).getLsbD 20 with
  | false => simp
  | true => exact iff_of_false (by decide) (by decide)

theorem Status.acknowledged_by_iff {events : Events H} {status : Status} {steps : MsiSteps H}
    {ret : IrqReturn} (hsome : status.irqNone = false) (hplugged : status.unplugged = false)
    (hsteps : Program.Produces (irqService events status) steps ret) :
    status.AcknowledgedBy steps ↔ status.word 0 = 0 ∨ status.word 1 &&& 0x100000 = 0 := by
  have hservice := irq_service_acknowledges hsome hplugged hsteps
  have hall : ∀ vector < saa7231MsiVectors, Acknowledged steps vector ↔
      bit status.word vector = true ∧ (vector = dcsnVector → status.word 0 = 0) :=
    fun vector hvector => (hservice vector).trans (Status.answers_iff hvector)
  rw [dcsn_clear_iff]
  constructor
  · intro hacknowledged
    by_cases hset : bit status.word dcsnVector = true
    · have hdcsn := (hacknowledged dcsnVector (by decide)).mpr hset
      exact Or.inl (((hall dcsnVector (by decide)).mp hdcsn).2 rfl)
    · exact Or.inr (Bool.eq_false_of_not_eq_true hset)
  · intro hclear vector hvector
    rw [hall vector hvector]
    refine and_iff_left_of_imp fun hbit hdcsn => hclear.resolve_right fun hzero => ?_
    rw [hdcsn, hzero] at hbit
    exact Bool.noConfusion hbit

/-- For all status words that the handler reads at entry, neither all zero nor all ones, it
acknowledges exactly the bits that are set, each in its own word, if and only if word 0 is zero
or the access violation is not among them. -/
theorem irq_acknowledges_iff (events : Events H) {status : Status}
    (hsome : status.irqNone = false) (hplugged : status.unplugged = false) {steps : MsiSteps H}
    {ret : IrqReturn} (hsteps : Program.Produces (irqHandler events) (status.entry ++ steps) ret) :
    status.AcknowledgedBy steps ↔ status.word 0 = 0 ∨ status.word 1 &&& 0x100000 = 0 := by
  obtain ⟨status', steps', hsplit, hservice⟩ := produces_irq_handler.mp hsteps
  -- The four reads at the entry fix the status words.
  have hsame : status = status' ∧ steps = steps' := by
    obtain ⟨word0, word1, word2, word3⟩ := status
    obtain ⟨word0', word1', word2', word3'⟩ := status'
    simp only [Status.entry, List.cons_append, List.nil_append] at hsplit
    injection hsplit with hword0 hsplit
    injection hsplit with hword1 hsplit
    injection hsplit with hword2 hsplit
    injection hsplit with hword3 hsplit
    cases hword0
    cases hword1
    cases hword2
    cases hword3
    exact ⟨rfl, hsplit⟩
  obtain ⟨rfl, rfl⟩ := hsame
  exact Status.acknowledged_by_iff hsome hplugged hservice

/-- An event table without events. -/
def emptyEvents : Events Bool := ⟨fun _ => ⟨0, none⟩, 0⟩

/-- The handler can read any status words. -/
theorem irq_handler_reads (events : Events H) (status : Status) :
    ∃ (steps : MsiSteps H) (ret : IrqReturn),
      Program.Produces (irqHandler events) (status.entry ++ steps) ret := by
  have hservice := Program.produces_run (msiWorld .plain) (irqService events status) .reset
  exact ⟨_, _, produces_irq_handler.mpr ⟨status, _, rfl, hservice⟩⟩

/-- Vector 15 and an access violation on an empty word 0. -/
theorem irq_acknowledges_two_words :
    ∃ (steps : MsiSteps Bool) (ret : IrqReturn),
      Program.Produces (irqHandler emptyEvents) (Status.entry ⟨0, 0x108000, 0, 0⟩ ++ steps) ret ∧
        (Status.AcknowledgedBy ⟨0, 0x108000, 0, 0⟩ steps ↔
          (0 : BitVec 32) = 0 ∨ (0x108000 : BitVec 32) &&& 0x100000 = 0) := by
  obtain ⟨steps, ret, hsteps⟩ := irq_handler_reads emptyEvents ⟨0, 0x108000, 0, 0⟩
  exact ⟨steps, ret, hsteps, irq_acknowledges_iff emptyEvents (by decide) (by decide) hsteps⟩

/-- Vector 1 and an access violation: bit 20 of word 1 is not acknowledged. -/
theorem violation_not_acknowledged :
    ∃ (steps : MsiSteps Bool) (ret : IrqReturn),
      Program.Produces (irqHandler emptyEvents) (Status.entry ⟨0x2, 0x100000, 0, 0⟩ ++ steps) ret ∧
        ¬ Status.AcknowledgedBy ⟨0x2, 0x100000, 0, 0⟩ steps := by
  obtain ⟨steps, ret, hservice⟩ : ∃ (steps : MsiSteps Bool) (ret : IrqReturn),
      Program.Produces (irqService emptyEvents ⟨0x2, 0x100000, 0, 0⟩) steps ret :=
    ⟨_, _, Program.produces_run (msiWorld .plain) _ .reset⟩
  refine ⟨steps, ret, produces_irq_handler.mpr ⟨_, steps, rfl, hservice⟩, ?_⟩
  rw [Status.acknowledged_by_iff (by decide) (by decide) hservice]
  decide

end Saa7231
