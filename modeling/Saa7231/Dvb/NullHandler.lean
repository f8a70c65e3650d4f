import Saa7231.Msi.EnableMask
import Saa7231.Msi.Handler
import Saa7231.Stream.Lifecycle

/-!
# Which handlers the interrupt handler calls

An event counts as registered when its entry holds its own vector. Entries that nobody uses
hold vector 0, and `saa7231_dvb_init` registers internal adapters with the `NULL` of
`dvbstr_tbl`, which `saa7231_remove_irqevent` then leaves in place. `no_null_call_iff` says for
which status words the handler calls none of these.
-/

namespace Saa7231

open Interaction Bus PackedBits

/-! ## The events of the adapters (`saa7231_dvb.c`) -/

/-- The event handlers of the driver. -/
inductive DvbHandler where
  | dvbts2d0Evhandler
  | dvbts2d1Evhandler
  deriving DecidableEq

/-- `struct dvb_vecstr`. -/
structure DvbVecstr where
  vector : Nat
  stream : Nat
  evhandler : Option DvbHandler

/-- `dvbstr_tbl`. -/
def dvbstrTbl : List DvbVecstr :=
  [⟨0x45, 0x2, none⟩, ⟨0x46, 0x3, none⟩, ⟨0x47, 0x0, some .dvbts2d0Evhandler⟩,
    ⟨0x48, 0x1, some .dvbts2d1Evhandler⟩]

/-- The vector of the adapter of a type with a number among its type. -/
def AdapterType.vector (adapType : AdapterType) (number : Nat) : Nat :=
  match adapType with
  | .internal => 45 + number
  | .external => 47 + number

/-- The handler that `saa7231_dvb_init` registers for a vector. -/
def dvbHandler (vector : Nat) : Option DvbHandler :=
  (dvbstrTbl[vector - 45]?).bind DvbVecstr.evhandler

/-- The registration of an adapter's event in `saa7231_dvb_init`. -/
def dvbAddIrqevent {Ext : Type} {ExtAns : Ext → Type} (bug : BusProgram ExtAns Unit)
    (events : Events DvbHandler) (adapType : AdapterType) (number : Nat) :
    BusProgram ExtAns (Int × Events DvbHandler) :=
  let vector := adapType.vector number
  addIrqevent bug events vector .rising (dvbHandler vector)

/-! ## What the interrupt handler calls -/

section Calls

variable {H : Type} (events : Events H) (status : Status)

/-- The entry of the vector would be called, and has no handler. -/
def Events.NullEntry (vector : Nat) : Prop :=
  (events.eventHandler vector).vector = vector ∧ (events.eventHandler vector).handler = none

/-- No `NULL` was called. -/
def Controller.NullFree (controller : Controller H) : Prop :=
  ∀ vector, MsiEvent.called none vector ∉ controller.trace

variable {events status} {controller : Controller H} {vector : Nat}

theorem null_mem_serve {n : Nat} :
    MsiEvent.called none vector ∈ (controller.serve events status n).trace ↔
      (n = vector ∧ events.NullEntry vector) ∨
        MsiEvent.called none vector ∈ controller.trace := by
  unfold Controller.serve Events.NullEntry
  by_cases hentry : (events.eventHandler n).vector = n
  · rw [if_pos hentry]
    show _ ∈ MsiEvent.called (events.eventHandler n).handler n :: controller.trace ↔ _
    rw [List.mem_cons]
    refine or_congr_left ⟨fun heq => ?_, ?_⟩
    · injection heq with hhandler hvector
      subst hvector
      exact ⟨rfl, hentry, hhandler.symm⟩
    · rintro ⟨rfl, -, hhandler⟩
      rw [hhandler]
  · rw [if_neg hentry]
    refine (or_iff_right ?_).symm
    rintro ⟨rfl, hown, -⟩
    exact hentry hown

/-- Over all vectors, `NULL` is called for the visited entries without a handler. -/
theorem null_mem_serve_all {n : Nat} :
    MsiEvent.called none vector ∈ (controller.serveAll events status n).trace ↔
      (vector < n ∧ status.visits vector = true ∧ events.NullEntry vector) ∨
        MsiEvent.called none vector ∈ controller.trace := by
  induction n with
  | zero => simp [Controller.serveAll]
  | succ n ih =>
      have hlast : vector < n + 1 ↔ vector < n ∨ vector = n := Nat.lt_succ_iff_lt_or_eq
      unfold Controller.serveAll
      by_cases hvisit : status.visits n = true
      · rw [if_pos hvisit, null_mem_serve, ih, hlast]
        constructor
        · rintro (⟨rfl, hnull⟩ | ⟨hlt, hrest⟩ | htrace)
          · exact Or.inl ⟨Or.inr rfl, hvisit, hnull⟩
          · exact Or.inl ⟨Or.inl hlt, hrest⟩
          · exact Or.inr htrace
        · rintro (⟨hlt | rfl, hrest⟩ | htrace)
          · exact Or.inr (Or.inl ⟨hlt, hrest⟩)
          · exact Or.inl ⟨rfl, hrest.2⟩
          · exact Or.inr (Or.inr htrace)
      · rw [if_neg hvisit, ih, hlast]
        refine or_congr_left ⟨fun h => ⟨Or.inl h.1, h.2⟩, ?_⟩
        rintro ⟨hlt | rfl, hrest⟩
        · exact ⟨hlt, hrest⟩
        · exact absurd hrest.1 hvisit

/-- The handler calls `NULL` exactly when it visits an entry without a handler. -/
theorem irq_handler_null_free_iff (env : MsiEnvironment) (events : Events H) (status : Status) :
    ((irqHandler events).run (msiWorld env) (Controller.reporting status)).2.NullFree ↔
      status.unplugged = true ∨
        ∀ vector < 128, events.NullEntry vector → status.visits vector = false := by
  have hstatus : (⟨status.word 0, status.word 1, status.word 2, status.word 3⟩ : Status) =
      status := rfl
  have hquiet : (Controller.reporting status : Controller H).NullFree :=
    fun _ => List.not_mem_nil
  unfold irqHandler
  rw [Program.run_bind, read_status_run]
  show ((irqService events ⟨status.word 0, status.word 1, status.word 2, status.word 3⟩).run
    (msiWorld env) (Controller.reporting status)).2.NullFree ↔ _
  rw [hstatus]
  by_cases hnone : status.irqNone = true
  · have hclear : ∀ vector, status.visits vector = false := by
      intro vector
      refine Bool.eq_false_of_not_eq_true fun hvisit => ?_
      have hbit := (Status.visits_iff.mp hvisit).1
      rw [Status.bit_of_irq_none hnone] at hbit
      exact Bool.noConfusion hbit
    unfold irqService
    rw [hnone]
    exact iff_of_true hquiet (Or.inr fun vector _ _ => hclear vector)
  · by_cases hplugged : status.unplugged = true
    · unfold irqService
      rw [Bool.eq_false_of_not_eq_true hnone, hplugged]
      exact iff_of_true hquiet (Or.inl rfl)
    · rw [irq_service_run env events _ (Bool.eq_false_of_not_eq_true hnone)
        (Bool.eq_false_of_not_eq_true hplugged)]
      unfold Controller.NullFree
      simp only [null_mem_serve_all]
      constructor
      · intro hfree
        refine Or.inr fun vector hvector hnull => ?_
        exact Bool.eq_false_of_not_eq_true fun hvisit =>
          hfree vector (Or.inl ⟨hvector, hvisit, hnull⟩)
      · rintro (hall | hfree) vector (⟨hvector, hvisit, hnull⟩ | htrace)
        · exact hplugged hall
        · exact hplugged hall
        · rw [hfree vector hvector hnull] at hvisit
          exact Bool.noConfusion hvisit
        · exact hquiet vector htrace

end Calls

/-! ## The reachable tables -/

/-- A registration by `saa7231_dvb_init`, or a removal. -/
inductive TableCall where
  | add (env : MsiEnvironment) (adapType : AdapterType) (number : Nat)
  | remove (env : MsiEnvironment) (vector : Nat)

/-- One call, on the event table and the controller. -/
def tableStep (state : Events DvbHandler × Controller DvbHandler) :
    TableCall → Events DvbHandler × Controller DvbHandler
  | .add env adapType number =>
      let result := (dvbAddIrqevent MsiProgram.bug state.1 adapType number).run (msiWorld env)
        state.2
      (result.1.2, result.2)
  | .remove env vector =>
      let result := (removeIrqevent state.1 vector).run (msiWorld env) state.2
      (result.1.2, result.2)

/-- The bridge has two inputs of each type. -/
def TableCall.Valid : TableCall → Prop
  | .add _ _ number => number < 2
  | .remove _ vector => vector < 128

/-- Some call registered an internal adapter with this number. -/
def AddedInternal (number : Nat) (calls : List TableCall) : Prop :=
  ∃ env, TableCall.add env .internal number ∈ calls

theorem added_internal_cons {number : Nat} {call : TableCall} {calls : List TableCall} :
    AddedInternal number (call :: calls) ↔
      (∃ env, call = .add env .internal number) ∨ AddedInternal number calls := by
  simp only [AddedInternal, List.mem_cons, eq_comm, exists_or]

/-- The table of a driver that registered the internal adapters of `added`. -/
structure TableInv (added : Nat → Prop) (events : Events DvbHandler) : Prop where
  null : ∀ vector, events.NullEntry vector ↔
    vector = 0 ∨ (vector = 45 ∧ added 0) ∨ (vector = 46 ∧ added 1)
  handler : ∀ vector, (events.eventHandler vector).handler.isSome = true →
    vector = 47 ∨ vector = 48

/-- Internal adapters have no handler, external ones have one. -/
theorem dvb_handler_none_iff {adapType : AdapterType} {number : Nat} (hnumber : number < 2) :
    dvbHandler (adapType.vector number) = none ↔ adapType = .internal := by
  rcases (show number = 0 ∨ number = 1 by omega) with rfl | rfl <;> cases adapType <;> decide

theorem TableInv.add {added : Nat → Prop} {events events' : Events DvbHandler}
    (h : TableInv added events) {adapType : AdapterType} {number : Nat} (hnumber : number < 2)
    (hadd : ∀ index, events'.eventHandler index =
      if index = adapType.vector number then
        ⟨adapType.vector number, dvbHandler (adapType.vector number)⟩
      else events.eventHandler index) :
    TableInv (fun k => added k ∨ (adapType = .internal ∧ k = number)) events' := by
  have hnone : dvbHandler (adapType.vector number) = none ↔ adapType = .internal :=
    dvb_handler_none_iff hnumber
  refine ⟨fun vector => ?_, fun vector hsome => ?_⟩
  · unfold Events.NullEntry
    rw [hadd]
    split
    next hvector =>
        subst hvector
        simp only [hnone, true_and]
        cases adapType with
        | internal => grind [AdapterType.vector]
        | external => grind [AdapterType.vector]
    next hvector =>
        refine (h.null vector).trans ?_
        cases adapType with
        | internal => grind [AdapterType.vector]
        | external => simp
  · rw [hadd] at hsome
    split at hsome
    next hvector =>
        cases adapType with
        | internal => rw [hnone.mpr rfl] at hsome; exact Bool.noConfusion hsome
        | external => simp only [AdapterType.vector] at hvector; omega
    next => exact h.handler vector hsome

/-- A removal clears external events only. -/
theorem TableInv.remove {added : Nat → Prop} {events events' : Events DvbHandler}
    (h : TableInv added events) {removed : Nat}
    (hremove : ∀ index, events'.eventHandler index =
      if index = removed ∧ (events.eventHandler removed).handler.isSome = true then ⟨0, none⟩
      else events.eventHandler index) : TableInv added events' := by
  refine ⟨fun vector => ?_, fun vector hsome => ?_⟩
  · unfold Events.NullEntry
    rw [hremove]
    split
    next hcleared =>
        obtain ⟨rfl, hsome⟩ := hcleared
        have hexternal := h.handler vector hsome
        constructor
        · exact fun hzero => Or.inl hzero.1.symm
        · omega
    next => exact h.null vector
  · rw [hremove] at hsome
    split at hsome
    next => exact Bool.noConfusion hsome
    next => exact h.handler vector hsome

theorem TableInv.step {added : Nat → Prop} {state : Events DvbHandler × Controller DvbHandler}
    (h : TableInv added state.1) {call : TableCall} (hvalid : call.Valid) :
    TableInv (fun number => added number ∨ ∃ env, call = .add env .internal number)
      (tableStep state call).1 := by
  cases call with
  | add env adapType number =>
      have hstep := h.add hvalid ((add_irqevent_yields MsiProgram.bug state.1
        (adapType.vector number) .rising (dvbHandler (adapType.vector number))).run
        (msiWorld env) state.2)
      have hsame : ∀ k, (∃ env', TableCall.add env adapType number = .add env' .internal k) ↔
          adapType = .internal ∧ k = number := by
        intro k
        constructor
        · rintro ⟨env', heq⟩
          cases heq
          exact ⟨rfl, rfl⟩
        · rintro ⟨rfl, rfl⟩
          exact ⟨env, rfl⟩
      simp only [hsame]
      exact hstep
  | remove env vector =>
      have hstep := h.remove ((remove_irqevent_yields state.1 vector).run (msiWorld env) state.2)
      have hnever : ∀ k, ¬ ∃ env', TableCall.remove env vector = .add env' .internal k := by
        rintro k ⟨env', heq⟩
        cases heq
      simp only [hnever, or_false]
      exact hstep

theorem TableInv.run {added : Nat → Prop} {state : Events DvbHandler × Controller DvbHandler}
    (h : TableInv added state.1) {calls : List TableCall} (hvalid : ∀ call ∈ calls, call.Valid) :
    TableInv (fun number => added number ∨ AddedInternal number calls)
      (calls.foldl tableStep state).1 := by
  induction calls generalizing added state with
  | nil =>
      have hnever : ∀ number, ¬ AddedInternal number [] := by
        rintro number ⟨env, hmem⟩
        exact List.not_mem_nil hmem
      simp only [hnever, or_false]
      exact h
  | cons call rest ih =>
      have hnow := h.step (hvalid call List.mem_cons_self)
      have hrest := ih hnow fun later hmem => hvalid later (List.mem_cons_of_mem call hmem)
      simp only [added_internal_cons, ← or_assoc]
      exact hrest

/-- For every table that registrations and removals reach from a successful initialisation,
and for all status words, the interrupt handler calls no `NULL` if and only if the words are
all ones, or vector 0 and the vectors of the internal adapters registered so far are clear. -/
theorem no_null_call_iff {env : MsiEnvironment} {events events' : Events DvbHandler}
    {controller controller' : Controller DvbHandler}
    (hinit : (msiInit events).run (msiWorld env) controller = ((0, events'), controller'))
    (calls : List TableCall) (hvalid : ∀ call ∈ calls, call.Valid) (envIrq : MsiEnvironment)
    (status : Status) :
    ((irqHandler (calls.foldl tableStep (events', controller')).1).run (msiWorld envIrq)
        (Controller.reporting status)).2.NullFree ↔
      status.unplugged = true ∨
        (bit status.word 0 = false ∧ (AddedInternal 0 calls → bit status.word 45 = false) ∧
          (AddedInternal 1 calls → bit status.word 46 = false)) := by
  have hempty := (msi_init_success env hinit).1
  have hinitial : TableInv (fun _ => False) events' := by
    refine ⟨fun vector => ?_, fun vector hsome => ?_⟩
    · unfold Events.NullEntry
      rw [hempty]
      simp [eq_comm]
    · rw [hempty] at hsome
      exact Bool.noConfusion hsome
  have htable : TableInv (fun number => False ∨ AddedInternal number calls)
      (calls.foldl tableStep (events', controller')).1 := hinitial.run hvalid
  simp only [false_or] at htable
  -- None of the vectors in question is the access violation, so each is visited when set.
  have hvisits : ∀ vector, vector ≠ dcsnVector →
      (status.visits vector = false ↔ bit status.word vector = false) := by
    intro vector hvector
    rw [Status.visits, Status.bit_after hvector]
  rw [irq_handler_null_free_iff]
  refine or_congr_right ?_
  constructor
  · intro hfree
    refine ⟨?_, fun hadded => ?_, fun hadded => ?_⟩
    · exact (hvisits 0 (by decide)).mp
        (hfree 0 (by decide) ((htable.null 0).mpr (Or.inl rfl)))
    · exact (hvisits 45 (by decide)).mp
        (hfree 45 (by decide) ((htable.null 45).mpr (Or.inr (Or.inl ⟨rfl, hadded⟩))))
    · exact (hvisits 46 (by decide)).mp
        (hfree 46 (by decide) ((htable.null 46).mpr (Or.inr (Or.inr ⟨rfl, hadded⟩))))
  · rintro ⟨hzero, hfirst, hsecond⟩ vector - hnull
    rcases (htable.null vector).mp hnull with rfl | ⟨rfl, hadded⟩ | ⟨rfl, hadded⟩
    · exact (hvisits 0 (by decide)).mpr hzero
    · exact (hvisits 45 (by decide)).mpr (hfirst hadded)
    · exact (hvisits 46 (by decide)).mpr (hsecond hadded)

/-- An internal and an external adapter, with the event of the external one pending. -/
theorem no_null_call_external :
    ((irqHandler (([.add .plain .internal 0, .add .plain .external 0] : List TableCall).foldl
        tableStep ((plainMsi DvbHandler).1.2, (plainMsi DvbHandler).2)).1).run (msiWorld .plain)
        (Controller.reporting ⟨0, 0x8000, 0, 0⟩)).2.NullFree ↔
      (⟨0, 0x8000, 0, 0⟩ : Status).unplugged = true ∨
        (bit (⟨0, 0x8000, 0, 0⟩ : Status).word 0 = false ∧
          (AddedInternal 0 [.add .plain .internal 0, .add .plain .external 0] →
            bit (⟨0, 0x8000, 0, 0⟩ : Status).word 45 = false) ∧
          (AddedInternal 1 [.add .plain .internal 0, .add .plain .external 0] →
            bit (⟨0, 0x8000, 0, 0⟩ : Status).word 46 = false)) := by
  refine no_null_call_iff (plain_msi DvbHandler) _ ?_ .plain _
  simp [TableCall.Valid]

/-- The event of an internal adapter calls `NULL`. -/
theorem internal_event_calls_null :
    (TableCall.add .plain .internal 0).Valid ∧
      ¬ ((irqHandler (tableStep ((plainMsi DvbHandler).1.2, (plainMsi DvbHandler).2)
        (.add .plain .internal 0)).1).run (msiWorld .plain)
        (Controller.reporting ⟨0, 0x2000, 0, 0⟩)).2.NullFree := by
  refine ⟨Nat.zero_lt_two, ?_⟩
  rw [irq_handler_null_free_iff]
  rintro (hplugged | hfree)
  · exact absurd hplugged (by decide)
  · have hvisit := hfree 45 (by decide) ⟨rfl, rfl⟩
    exact absurd hvisit (by decide)

end Saa7231
