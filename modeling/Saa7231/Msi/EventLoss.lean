import Saa7231.Interaction.Interleaving
import Saa7231.Msi.EnableMask
import Saa7231.Msi.Handler

/-!
# Events raised while the interrupt handler runs

The hardware may raise a registered vector between any two operations of
`saa7231_irq_handler`. Each visit of a vector clears its whole status word as read at entry.
The first visit in a word clears before any handler of the word is called, so nothing is lost
there; a second visit clears again the vectors whose handlers were called before it.
-/

namespace Saa7231

open Interaction Bus PackedBits

variable {H : Type}

/-- The vector has an event with a handler. -/
def Events.Registered (events : Events H) (vector : Nat) : Prop :=
  vector < saa7231MsiVectors ∧ (events.eventHandler vector).vector = vector ∧
    (events.eventHandler vector).handler.isSome

/-- Some raise of the vector was not followed by a call of its handler. -/
def Events.Unserved (events : Events H) (vector : Nat) (trace : List (MsiEvent H)) : Prop :=
  ∃ later earlier, trace = later ++ .raised vector :: earlier ∧
    .called (events.eventHandler vector).handler vector ∉ later

/-- No event is lost: every raise of a registered vector was followed by a call of its handler,
or the vector is still pending. -/
def Controller.Keeps (controller : Controller H) (events : Events H) : Prop :=
  ∀ vector, events.Registered vector → vector ≠ dcsnVector →
    events.Unserved vector controller.trace → bit controller.pending vector = true

/-- What the hardware does while the handler runs. -/
def Raises (events : Events H) (controller controller' : Controller H) : Prop :=
  ∃ vector, events.Registered vector ∧ vector ≠ dcsnVector ∧ controller' = controller.raise vector

/-- Two vectors of one word are set, and the handler of the first is called before the word is
cleared for the second. -/
def Status.Shared (status : Status) (events : Events H) : Prop :=
  ∃ first second, first < second ∧ second < saa7231MsiVectors ∧ first / 32 = second / 32 ∧
    first ≠ dcsnVector ∧ second ≠ dcsnVector ∧ bit status.word first = true ∧
    bit status.word second = true ∧ events.Registered first

/-! ## The trace -/

section Trace

variable {events : Events H} {vector other : Nat} {trace : List (MsiEvent H)}

theorem unserved_raise : events.Unserved vector (.raised other :: trace) ↔
    vector = other ∨ events.Unserved vector trace := by
  constructor
  · rintro ⟨later, earlier, htrace, hcall⟩
    cases later with
    | nil =>
        cases htrace
        exact Or.inl rfl
    | cons event later =>
        cases htrace
        exact Or.inr ⟨later, earlier, rfl, fun hmem => hcall (List.mem_cons_of_mem _ hmem)⟩
  · rintro (rfl | ⟨later, earlier, rfl, hcall⟩)
    · exact ⟨[], trace, rfl, List.not_mem_nil⟩
    · refine ⟨.raised other :: later, earlier, rfl, fun hmem => ?_⟩
      cases hmem with
      | tail _ hmem => exact hcall hmem

/-- The call of a handler serves all earlier raises of its vector, and no others. -/
theorem unserved_call :
    events.Unserved vector (.called (events.eventHandler other).handler other :: trace) ↔
      vector ≠ other ∧ events.Unserved vector trace := by
  constructor
  · rintro ⟨later, earlier, htrace, hcall⟩
    cases later with
    | nil => cases htrace
    | cons event later =>
        cases htrace
        refine ⟨?_, later, earlier, rfl, fun hmem => hcall (List.mem_cons_of_mem _ hmem)⟩
        rintro rfl
        exact hcall List.mem_cons_self
  · rintro ⟨hother, later, earlier, rfl, hcall⟩
    refine ⟨_ :: later, earlier, rfl, fun hmem => ?_⟩
    rcases List.mem_cons.mp hmem with heq | hmem
    · injection heq with hhandler hsame
      exact hother hsame
    · exact hcall hmem

end Trace

/-- Another raise is pending. -/
theorem keeps_stable {events : Events H} : Program.Stable (Raises events) fun controller =>
    controller.Keeps events := by
  rintro controller _ ⟨other, -, -, rfl⟩ hkeeps vector hregistered hvector hunserved
  show bit (setBits controller.pending (other / 32) (1#32 <<< (other % 32))) vector = true
  rw [bit_set_mask]
  rcases unserved_raise.mp hunserved with heq | hbefore
  · exact Or.inr heq
  · exact Or.inl (hkeeps vector hregistered hvector hbefore)

/-! ## No interleaving loses an event -/

/-- A raise that no call followed is still pending, or is in the status array and its vector is
one the handler has yet to come to. -/
def Controller.KeepsFrom (controller : Controller H) (events : Events H) (status : Status)
    (n : Nat) : Prop :=
  ∀ vector, events.Registered vector → vector ≠ dcsnVector →
    events.Unserved vector controller.trace →
      bit controller.pending vector = true ∨ (n ≤ vector ∧ bit status.word vector = true)

namespace Controller.KeepsFrom

variable {events : Events H} {status : Status} {n : Nat} {controller : Controller H}

/-- Another raise is pending. -/
theorem stable : Program.Stable (Raises events) fun controller =>
    controller.KeepsFrom events status n := by
  rintro controller _ ⟨other, -, -, rfl⟩ hkeeps vector hregistered hvector hunserved
  show bit (setBits controller.pending (other / 32) (1#32 <<< (other % 32))) vector = true ∨ _
  rw [bit_set_mask]
  rcases unserved_raise.mp hunserved with heq | hbefore
  · exact Or.inl (Or.inr heq)
  · exact (hkeeps vector hregistered hvector hbefore).imp_left Or.inl

/-- Clearing the word of a visited vector takes back only vectors from this one on. -/
theorem clear (h : controller.KeepsFrom events status n) (hn : n < saa7231MsiVectors)
    (hshared : ¬ status.Shared events) (hvisit : status.visits n = true) :
    Controller.KeepsFrom { controller with
      pending := clearBits controller.pending (n / 32) ((status.after n).word (n / 32)) }
      events status n := by
  obtain ⟨hset, hviolation⟩ := Status.visits_iff.mp hvisit
  intro vector hregistered hvector hunserved
  show bit (clearBits _ _ _) vector = true ∨ _
  rw [bit_clear_bits]
  by_cases hcleared : vector / 32 = n / 32 ∧
      ((status.after n).word (n / 32)).getLsbD (vector % 32) = true
  · obtain ⟨hword, hbit⟩ := hcleared
    rw [← hword] at hbit
    have hin : bit status.word vector = true := by
      rw [← Status.bit_after hvector]
      exact hbit
    -- An earlier vector of the word would share it with the visited one.
    refine Or.inr ⟨not_lt.mp fun hlt => ?_, hin⟩
    have hn_ne : n ≠ dcsnVector := by
      intro heq
      have hseen : status.seen n = true := Status.seen_iff.mpr ⟨vector, hlt, hin⟩
      exact Bool.noConfusion ((hviolation heq).symm.trans hseen)
    exact hshared ⟨vector, n, hlt, hn, hword, hvector, hn_ne, hin, hset, hregistered⟩
  · exact (h vector hregistered hvector hunserved).imp_left fun hpending => ⟨hpending, hcleared⟩

/-- The handler of the vector is called when it is registered. -/
theorem dispatched (h : controller.KeepsFrom events status n) :
    (if (events.eventHandler n).vector = n then
        controller.call (events.eventHandler n).handler n
      else controller).KeepsFrom events status (n + 1) := by
  intro vector hregistered hvector hunserved
  split at hunserved
  next hentry =>
      rw [if_pos hentry]
      obtain ⟨hne, hbefore⟩ := unserved_call.mp hunserved
      refine (h vector hregistered hvector hbefore).imp_right fun ⟨hle, hbit⟩ => ⟨?_, hbit⟩
      exact Nat.lt_of_le_of_ne hle (Ne.symm hne)
  next hentry =>
      rw [if_neg hentry]
      refine (h vector hregistered hvector hunserved).imp_right fun ⟨hle, hbit⟩ => ⟨?_, hbit⟩
      refine Nat.lt_of_le_of_ne hle ?_
      rintro rfl
      exact hentry hregistered.2.1

/-- A vector that is not visited is not set, or is the access violation. -/
theorem skipped (h : controller.KeepsFrom events status n) (hskip : status.visits n = false) :
    controller.KeepsFrom events status (n + 1) := by
  intro vector hregistered hvector hunserved
  refine (h vector hregistered hvector hunserved).imp_right fun ⟨hle, hbit⟩ => ⟨?_, hbit⟩
  refine Nat.lt_of_le_of_ne hle ?_
  rintro rfl
  have hvisit : status.visits n = true :=
    Status.visits_iff.mpr ⟨hbit, fun heq => absurd heq hvector⟩
  exact Bool.noConfusion (hskip.symm.trans hvisit)

end Controller.KeepsFrom

section AllInterleavings

variable {env : MsiEnvironment} {events : Events H} {status : Status}

/-- Reading a register does not disturb an assertion that the hardware keeps. -/
theorem ensures_rd {P : Controller H → Prop} (hstable : Program.Stable (Raises events) P)
    (address : Nat) : Program.Ensures (msiWorld env) (Raises events) P
      (rd address : MsiProgram H _) fun _ => P :=
  Program.ensures_perform hstable (fun _ => hstable) fun _ h => h

/-- A write whose effect on the controller keeps the assertion. -/
theorem ensures_wr {P : Controller H → Prop} (hstable : Program.Stable (Raises events) P)
    {value : BitVec 32} {address : Nat}
    (hwrite : ∀ controller, P controller → P (controller.write value address)) :
    Program.Ensures (msiWorld env) (Raises events) P
      (wr value address : MsiProgram H _) fun _ => P :=
  Program.ensures_perform hstable (fun _ => hstable) hwrite

theorem ensures_clear_violation {P : Controller H → Prop}
    (hstable : Program.Stable (Raises events) P) (current : Status) :
    Program.Ensures (msiWorld env) (Raises events) P (clearViolation current)
      fun status controller => status = current.withoutViolation ∧ P controller := by
  unfold clearViolation
  have hpure : ∀ value : Status, value = current.withoutViolation →
      Program.Ensures (msiWorld env) (Raises events) P (pure value)
        fun status controller => status = current.withoutViolation ∧ P controller :=
    fun value hvalue => Program.ensures_pure hstable fun _ h => ⟨hvalue, h⟩
  split
  next hviolation =>
      refine (ensures_rd hstable _).bind fun dcsStat => ?_
      refine (ensures_rd hstable _).bind fun _ => ?_
      refine (ensures_wr hstable fun controller h => ?_).bind fun _ => ?_
      · rw [controller.write_other _ (show msiReg (Mod.dcsn + dcsnIntClrStatus) = .other from rfl)]
        exact h
      · exact hpure _ rfl
  next hnone => exact hpure _ (Status.without_violation_eq hnone).symm

theorem ensures_dispatch (n : Nat) :
    Program.Ensures (msiWorld env) (Raises events)
      (fun controller => controller.KeepsFrom events status n)
      (dispatch (events.eventHandler n) n)
      fun _ controller => controller.KeepsFrom events status (n + 1) := by
  unfold dispatch
  split
  next hentry =>
      refine Program.ensures_perform .stable (fun _ => .stable) fun controller h => ?_
      have hcalled := h.dispatched
      rw [if_pos hentry] at hcalled
      exact hcalled
  next hentry =>
      refine Program.ensures_pure .stable fun controller h => ?_
      have hcalled := h.dispatched
      rw [if_neg hentry] at hcalled
      exact hcalled

/-- The visit of one vector, whatever the hardware raises in between. -/
theorem ensures_irq_visit (hshared : ¬ status.Shared events) {i j : Nat} (hi : i < 4) (hj : j < 32)
    (current : Status) :
    Program.Ensures (msiWorld env) (Raises events)
      (fun controller => current = status.after (i * 32 + j) ∧
        controller.KeepsFrom events status (i * 32 + j))
      (irqVisit events i j current)
      fun current controller => current = status.after (i * 32 + (j + 1)) ∧
        controller.KeepsFrom events status (i * 32 + (j + 1)) := by
  refine Program.ensures_assume ?_
  rintro rfl
  have hbit : ((status.after (i * 32 + j)).word i >>> j) &&& 0x1 ≠ 0 ↔
      status.visits (i * 32 + j) = true := by
    rw [shift_and_one_ne_zero, Status.visits, bit_of_word _ _ hj]
  have hword : (i * 32 + j) / 32 = i := by omega
  have hn : i * 32 + j < saa7231MsiVectors := by
    unfold saa7231MsiVectors
    omega
  unfold irqVisit
  split
  next hset =>
      have hvisit := hbit.mp hset
      have hnext : (status.after (i * 32 + j)).withoutViolation = status.after (i * 32 + (j + 1)) :=
        Status.after_without_violation hvisit
      refine (ensures_wr .stable fun controller h => ?_).bind fun _ => ?_
      · have hclear := h.clear hn hshared hvisit
        rw [hword] at hclear
        unfold Controller.write
        rw [msi_reg_status_clr hi]
        exact hclear
      · refine (ensures_clear_violation .stable _).bind fun current => ?_
        refine Program.ensures_assume fun hcurrent => ?_
        refine (ensures_dispatch _).bind fun _ => ?_
        exact Program.ensures_pure .stable fun _ h => ⟨hcurrent.trans hnext, h⟩
  next hclear =>
      have hskip : status.visits (i * 32 + j) = false :=
        Bool.eq_false_of_not_eq_true fun h => hclear (hbit.mpr h)
      exact Program.ensures_pure .stable fun _ h =>
        ⟨(Status.after_skip hskip).symm, h.skipped hskip⟩

/-- The handler after it has read a status array without shared words. -/
theorem ensures_irq_service (hshared : ¬ status.Shared events) :
    Program.Ensures (msiWorld env) (Raises events) (fun controller => controller.Keeps events)
      (irqService events status) fun _ controller => controller.Keeps events := by
  have hstart : ∀ controller : Controller H, controller.Keeps events →
      controller.KeepsFrom events status 0 :=
    fun _ h vector hregistered hvector hunserved =>
      Or.inl (h vector hregistered hvector hunserved)
  have hend : ∀ controller : Controller H, controller.KeepsFrom events status 128 →
      controller.Keeps events := by
    intro controller h vector hregistered hvector hunserved
    rcases h vector hregistered hvector hunserved with hpending | ⟨hle, -⟩
    · exact hpending
    · exact absurd hregistered.1 (not_lt.mpr hle)
  have hpure : ∀ value, Program.Ensures (msiWorld env) (Raises events)
      (fun controller => controller.Keeps events)
      (pure value : MsiProgram H IrqReturn) fun _ controller => controller.Keeps events :=
    fun value => Program.ensures_pure keeps_stable fun _ h => h
  -- Both loops keep that the array is what the visits so far have left of it.
  have hinner : ∀ i < saa7231MsiLoops, ∀ current : Status,
      Program.Ensures (msiWorld env) (Raises events)
        (fun controller => current = status.after (i * 32) ∧
          controller.KeepsFrom events status (i * 32))
        (Program.loop 32 (fun j current => irqVisit events i j current) current)
        fun current controller => current = status.after ((i + 1) * 32) ∧
          controller.KeepsFrom events status ((i + 1) * 32) := by
    intro i hi current
    rw [Nat.add_one_mul]
    exact Program.ensures_loop (I := fun j current (controller : Controller H) =>
        current = status.after (i * 32 + j) ∧ controller.KeepsFrom events status (i * 32 + j))
      (fun _ => Program.stable_assume Controller.KeepsFrom.stable)
      (fun j hj current => ensures_irq_visit hshared hi hj current) current
  have houter := Program.ensures_loop (I := fun i current (controller : Controller H) =>
      current = status.after (i * 32) ∧ controller.KeepsFrom events status (i * 32))
    (fun _ => Program.stable_assume Controller.KeepsFrom.stable) hinner status
  unfold irqService
  split
  next => exact hpure _
  next =>
      split
      next => exact hpure _
      next =>
          refine Program.Ensures.bind (houter.mono (fun _ h => ⟨rfl, hstart _ h⟩)
            fun _ controller h => hend controller h.2) fun _ => hpure _

end AllInterleavings

/-! ## An interleaving that loses an event -/

section SomeInterleaving

variable {events : Events H} {status : Status} {first second : Nat}

/-- The first vector is raised again after its call, and is cleared with the second. -/
structure Controller.Losing (controller : Controller H) (events : Events H)
    (first second n : Nat) : Prop where
  unserved : first < n → events.Unserved first controller.trace
  cleared : second < n → bit controller.pending first = false

/-- Another visit calls another handler. -/
theorem unserved_serve {controller : Controller H} {vector n : Nat} (hne : vector ≠ n)
    (h : events.Unserved vector controller.trace) :
    events.Unserved vector (controller.serve events status n).trace := by
  unfold Controller.serve
  split
  next => exact unserved_call.mpr ⟨hne, h⟩
  next => exact h

theorem serve_pending (controller : Controller H) (n : Nat) :
    (controller.serve events status n).pending =
      clearBits controller.pending (n / 32) ((status.after n).word (n / 32)) := by
  unfold Controller.serve
  split <;> rfl

/-- Coming to a vector other than the first. -/
theorem Controller.Losing.visit {controller : Controller H} {n : Nat}
    (h : controller.Losing events first second n) (hne : n ≠ first)
    (hword : first / 32 = second / 32) (hfirst : bit status.word first = true)
    (hsecond : status.visits second = true) (hviolation : first ≠ dcsnVector) :
    (if status.visits n then controller.serve events status n else controller).Losing events
      first second (n + 1) := by
  have hold : first < n + 1 → first < n := fun hlt =>
    Nat.lt_of_le_of_ne (Nat.lt_succ_iff.mp hlt) hne.symm
  by_cases hvisit : status.visits n = true
  · rw [if_pos hvisit]
    refine ⟨fun hlt => unserved_serve hne.symm (h.unserved (hold hlt)), fun hlt => ?_⟩
    rw [serve_pending, ← Bool.not_eq_true, bit_clear_bits]
    rintro ⟨hpending, hkept⟩
    rcases Nat.lt_succ_iff_lt_or_eq.mp hlt with hbefore | rfl
    · exact Bool.noConfusion ((h.cleared hbefore).symm.trans hpending)
    · refine hkept ⟨hword, ?_⟩
      rw [← hword]
      exact (Status.bit_after hviolation).trans hfirst
  · rw [if_neg hvisit]
    refine ⟨fun hlt => h.unserved (hold hlt), fun hlt => h.cleared ?_⟩
    refine Nat.lt_of_le_of_ne (Nat.lt_succ_iff.mp hlt) ?_
    rintro rfl
    exact hvisit hsecond

/-- After the visit of the first vector the hardware raises it again. -/
theorem admits_irq_visit (env : MsiEnvironment) (hlt : first < second)
    (hword : first / 32 = second / 32)
    (hfirst : bit status.word first = true) (hsecond : bit status.word second = true)
    (hfirst_ne : first ≠ dcsnVector) (hsecond_ne : second ≠ dcsnVector)
    (hregistered : events.Registered first) {i j : Nat} (hi : i < 4) (hj : j < 32)
    (current : Status) :
    Program.Admits (msiWorld env) (Raises events)
      (fun controller => current = status.after (i * 32 + j) ∧
        controller.Losing events first second (i * 32 + j))
      (irqVisit events i j current)
      fun current controller => current = status.after (i * 32 + (j + 1)) ∧
        controller.Losing events first second (i * 32 + (j + 1)) := by
  refine Program.admits_assume ?_
  rintro rfl
  have hvisits : status.visits second = true :=
    Status.visits_iff.mpr ⟨hsecond, fun heq => absurd heq hsecond_ne⟩
  by_cases hturn : i * 32 + j = first
  · -- The raise comes after the handler of the first vector was called.
    refine Program.Admits.disturb_end (R := fun current _ =>
      current = status.after (i * 32 + (j + 1))) (Program.admits_run fun controller _ => ?_)
      fun current controller hcurrent => ?_
    · rw [irq_visit_run env events controller hi hj]
      rfl
    · refine ⟨controller.raise first, ⟨first, hregistered, hfirst_ne, rfl⟩, hcurrent, ?_, ?_⟩
      · exact fun _ => unserved_raise.mpr (Or.inl rfl)
      · intro hpast
        exact absurd hpast (by omega)
  · refine Program.admits_run fun controller h => ?_
    rw [irq_visit_run env events controller hi hj]
    exact ⟨rfl, h.visit hturn hword hfirst hvisits hfirst_ne⟩

/-- A shared word makes the handler lose an event. -/
theorem irq_service_loses (env : MsiEnvironment) (hshared : status.Shared events)
    (hplugged : status.unplugged = false)
    (controller : Controller H) :
    ∃ ret controller', Program.Interleaves (msiWorld env) (Raises events)
      (irqService events status) controller ret controller' ∧ ¬ controller'.Keeps events := by
  obtain ⟨first, second, hlt, hbound, hword, hfirst_ne, hsecond_ne, hfirst, hsecond, hregistered⟩ :=
    hshared
  have hsome : status.irqNone = false := by
    refine Bool.eq_false_of_not_eq_true fun hnone => ?_
    exact Bool.noConfusion ((Status.bit_of_irq_none hnone first).symm.trans hfirst)
  -- The hardware raises the first vector once, behind its visit, and nothing else.
  have hinner : ∀ i < saa7231MsiLoops, ∀ current : Status,
      Program.Admits (msiWorld env) (Raises events)
        (fun controller => current = status.after (i * 32) ∧
          controller.Losing events first second (i * 32))
        (Program.loop 32 (fun j current => irqVisit events i j current) current)
        fun current controller => current = status.after ((i + 1) * 32) ∧
          controller.Losing events first second ((i + 1) * 32) := by
    intro i hi current
    rw [Nat.add_one_mul]
    exact Program.admits_loop (I := fun j current (controller : Controller H) =>
        current = status.after (i * 32 + j) ∧
          controller.Losing events first second (i * 32 + j))
      (fun j hj current => admits_irq_visit env hlt hword hfirst hsecond hfirst_ne hsecond_ne
        hregistered hi hj current) current
  have houter := Program.admits_loop (I := fun i current (controller : Controller H) =>
      current = status.after (i * 32) ∧ controller.Losing events first second (i * 32))
    hinner status
  have hstart : controller.Losing events first second (0 * 32) :=
    ⟨fun h => absurd h (Nat.not_lt_zero first), fun h => absurd h (Nat.not_lt_zero second)⟩
  obtain ⟨current, controller', hrun, -, hlost⟩ := houter controller ⟨rfl, hstart⟩
  refine ⟨.handled, controller', ?_, fun hkeeps => ?_⟩
  · unfold irqService
    rw [hsome, hplugged]
    exact Program.interleaves_bind.mpr ⟨current, controller', hrun, .done _ _⟩
  · have hpending := hkeeps first hregistered hfirst_ne (hlost.unserved (hlt.trans hbound))
    exact Bool.noConfusion ((hlost.cleared hbound).symm.trans hpending)

/-- A controller that reports the array, with nothing raised before. -/
theorem reporting_keeps : (Controller.reporting status : Controller H).Keeps events := by
  rintro vector - - ⟨later, earlier, htrace, -⟩
  have hnil : ([] : List (MsiEvent H)) = later ++ .raised vector :: earlier := htrace
  simp at hnil

theorem interleaves_read_status (env : MsiEnvironment) :
    Program.Interleaves (msiWorld env) (Raises events) readStatus
      (Controller.reporting status : Controller H) status (Controller.reporting status) := by
  have hread : Program.Interleaves (msiWorld env) (Raises events) readStatus
      (Controller.reporting status : Controller H)
      (readStatus.run (msiWorld env) (Controller.reporting status)).1
      (readStatus.run (msiWorld env) (Controller.reporting status)).2 :=
    Program.interleaves_run readStatus _
  rw [read_status_run] at hread
  exact hread

end SomeInterleaving

/-! ## When no event is lost -/

/-- Every interleaving of `saa7231_irq_handler` with the hardware in which the given array was
read at entry loses no event. -/
def NoneLost (env : MsiEnvironment) (events : Events H) (status : Status) : Prop :=
  ∀ controller controller₁ controller' ret, controller.Keeps events →
    Program.Interleaves (msiWorld env) (Raises events) readStatus controller status controller₁ →
    Program.Interleaves (msiWorld env) (Raises events) (irqService events status) controller₁ ret
      controller' →
    controller'.Keeps events

/-- Reading the status words loses nothing. -/
theorem ensures_read_status {env : MsiEnvironment} {events : Events H} :
    Program.Ensures (msiWorld env) (Raises events) (fun controller => controller.Keeps events)
      readStatus fun _ controller => controller.Keeps events := by
  unfold readStatus
  refine (ensures_rd keeps_stable _).bind fun _ => ?_
  refine (ensures_rd keeps_stable _).bind fun _ => ?_
  refine (ensures_rd keeps_stable _).bind fun _ => ?_
  refine (ensures_rd keeps_stable _).bind fun _ => ?_
  exact Program.ensures_pure keeps_stable fun _ h => h

/-- An unplugged device is not served. -/
theorem ensures_unplugged {env : MsiEnvironment} {events : Events H} {status : Status}
    (hunplugged : status.unplugged = true) :
    Program.Ensures (msiWorld env) (Raises events) (fun controller => controller.Keeps events)
      (irqService events status) fun _ controller => controller.Keeps events := by
  unfold irqService
  split
  next => exact Program.ensures_pure keeps_stable fun _ h => h
  next => exact Program.ensures_pure keeps_stable fun _ h => h

/-- The handler loses no event if and only if the status words read at entry are all ones, or
have no two bits set in one word the first of which belongs to a registered vector (not counting
the access violation). -/
theorem none_lost_iff (env : MsiEnvironment) (events : Events H) (status : Status) :
    NoneLost env events status ↔ status.unplugged = true ∨ ¬ status.Shared events := by
  constructor
  · intro hkeeps
    by_contra hcontra
    obtain ⟨hplugged, hshared⟩ := not_or.mp hcontra
    obtain ⟨ret, controller', hrun, hlost⟩ := irq_service_loses env (not_not.mp hshared)
      (Bool.eq_false_of_not_eq_true hplugged) (Controller.reporting status)
    exact hlost (hkeeps _ _ _ _ reporting_keeps (interleaves_read_status env) hrun)
  · intro hcase controller controller₁ controller' ret hkeeps hread hservice
    have hkeeps₁ : controller₁.Keeps events := ensures_read_status _ _ _ hkeeps hread
    rcases hcase with hunplugged | hshared
    · exact ensures_unplugged hunplugged _ _ _ hkeeps₁ hservice
    · exact ensures_irq_service hshared _ _ _ hkeeps₁ hservice

/-- The event table with the vectors of both external inputs registered. -/
def bothInputs : Events Unit :=
  (([.add .plain 47 .rising (), .add .plain 48 .rising ()] : List (RegistryCall Unit)).foldl
    Registry.step ⟨(plainMsi Unit).1.2, (plainMsi Unit).2, ∅⟩).events

/-- Vectors 47 and 48 are pending; 47 is raised again after its call, and the clear for 48 takes
it back. -/
theorem second_clear_loses_event :
    ¬ ∀ controller ret controller', controller.Keeps bothInputs →
      Program.Interleaves (msiWorld .plain) (Raises bothInputs) (irqHandler bothInputs) controller
        ret controller' →
      controller'.Keeps bothInputs := by
  intro hkeeps
  have hshared : (⟨0, 0x18000, 0, 0⟩ : Status).Shared bothInputs := by
    refine ⟨47, 48, by decide, by decide, rfl, by decide, by decide, by decide, by decide, ?_⟩
    exact ⟨by decide, rfl, rfl⟩
  obtain ⟨ret, controller', hrun, hlost⟩ := irq_service_loses .plain hshared (by decide)
    (Controller.reporting ⟨0, 0x18000, 0, 0⟩)
  refine hlost (hkeeps (Controller.reporting ⟨0, 0x18000, 0, 0⟩) ret controller' reporting_keeps ?_)
  exact Program.interleaves_bind.mpr ⟨_, _, interleaves_read_status .plain, hrun⟩

end Saa7231
