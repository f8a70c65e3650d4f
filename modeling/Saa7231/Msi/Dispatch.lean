import Saa7231.Msi.EnableMask
import Saa7231.Msi.Handler

/-!
# Which handlers an interrupt calls

The event table stands for a partial map from vectors to handlers. Additions and removals keep
the correspondence: a registered entry holds its own vector, and every other entry is cleared.
The interrupt handler then calls the handlers of the map at the set bits, in the order of the
vectors. The bit of the access violation is the one that it drops on the way.
-/

namespace Saa7231

open Interaction Bus PackedBits

variable {H : Type}

/-! ## The table as a partial map -/

/-- What a call makes of a map from vectors to handlers. -/
def RegistryCall.update (table : Nat → Option H) : RegistryCall H → Nat → Option H
  | .add _ vector _ handler => Function.update table vector (some handler)
  | .remove _ vector => Function.update table vector none

/-- The entry of a vector. -/
def entryOf (vector : Nat) : Option H → IrqEntry H
  | some handler => ⟨vector, some handler⟩
  | none => ⟨0, none⟩

/-- The event table stands for the map. -/
def Events.Represents (events : Events H) (table : Nat → Option H) : Prop :=
  ∀ vector, events.eventHandler vector = entryOf vector (table vector)

variable {registry : Registry H} {table : Nat → Option H}

theorem Events.Represents.step (h : registry.events.Represents table) (call : RegistryCall H) :
    (registry.step call).events.Represents (call.update table) := by
  intro vector
  cases call with
  | add env added edge handler =>
      have hadd := (add_irqevent_yields MsiProgram.bug registry.events added edge
        (some handler)).run (msiWorld env) registry.controller
      refine (hadd vector).trans ?_
      show _ = entryOf vector (Function.update table added (some handler) vector)
      by_cases hvector : vector = added
      · subst hvector
        rw [if_pos rfl, Function.update_self]
        rfl
      · rw [if_neg hvector, Function.update_of_ne hvector, h vector]
  | remove env removed =>
      have hremove := (remove_irqevent_yields registry.events removed).run (msiWorld env)
        registry.controller
      refine (hremove vector).trans ?_
      show _ = entryOf vector (Function.update table removed none vector)
      by_cases hvector : vector = removed
      · subst hvector
        rw [Function.update_self, h vector]
        cases table vector with
        | some handler => exact if_pos ⟨rfl, rfl⟩
        | none => exact if_neg fun hsome => Bool.noConfusion hsome.2
      · rw [Function.update_of_ne hvector, if_neg fun hboth => hvector hboth.1, h vector]

theorem Events.Represents.run (h : registry.events.Represents table)
    (calls : List (RegistryCall H)) :
    (calls.foldl Registry.step registry).events.Represents
      (calls.foldl RegistryCall.update table) := by
  induction calls generalizing registry table with
  | nil => exact h
  | cons call rest ih => exact ih (h.step call)

/-! ## The calls of one interrupt -/

/-- The handlers called so far, each with the vector it was given, in their order. -/
def Controller.calls (controller : Controller H) : List (Option H × Nat) :=
  (controller.trace.filterMap fun event => match event with
    | .called handler vector => some (handler, vector)
    | .raised _ => none).reverse

theorem serve_calls (controller : Controller H) (events : Events H) (status : Status)
    (vector : Nat) :
    (controller.serve events status vector).calls = controller.calls ++
      if (events.eventHandler vector).vector = vector then
        [((events.eventHandler vector).handler, vector)]
      else [] := by
  unfold Controller.serve
  split
  next => exact List.reverse_cons
  next => exact (List.append_nil _).symm

/-- The call for a vector: the registered handler, if the vector is visited. -/
def callAt (status : Status) (table : Nat → Option H) (vector : Nat) : Option (Option H × Nat) :=
  if status.visits vector then (table vector).map fun handler => (some handler, vector) else none

/-- The calls for the first `n` vectors. -/
def visitedCalls (status : Status) (table : Nat → Option H) (n : Nat) : List (Option H × Nat) :=
  (List.range n).filterMap (callAt status table)

theorem serve_all_calls {events : Events H} {status : Status}
    (htable : events.Represents table) (hzero : status.visits 0 = true → (table 0).isSome = true)
    (controller : Controller H) (n : Nat) :
    (controller.serveAll events status n).calls =
      controller.calls ++ visitedCalls status table n := by
  induction n with
  | zero => exact (List.append_nil _).symm
  | succ n ih =>
      have hlast : visitedCalls status table (n + 1) =
          visitedCalls status table n ++ (callAt status table n).toList := by
        rw [visitedCalls, List.range_succ, List.filterMap_append]
        cases hcall : callAt status table n with
        | none => rw [List.filterMap_cons_none hcall]; rfl
        | some call => rw [List.filterMap_cons_some hcall]; rfl
      unfold Controller.serveAll
      rw [hlast, callAt]
      by_cases hvisit : status.visits n = true
      · rw [if_pos hvisit, if_pos hvisit, serve_calls, ih, List.append_assoc, htable n]
        cases hentry : table n with
        | some handler => rw [entryOf, if_pos rfl]; rfl
        | none =>
            -- a cleared entry holds vector 0 and is called for that vector only
            have hne : ¬ 0 = n := by
              rintro rfl
              rw [hentry] at hzero
              exact Bool.noConfusion (hzero hvisit)
            rw [entryOf, if_neg hne]
            rfl
      · rw [if_neg hvisit, if_neg hvisit, ih]
        exact (congrArg _ (List.append_nil _)).symm

theorem call_at_eq_some {status : Status} {handler : Option H} {vector called : Nat} :
    callAt status table vector = some (handler, called) ↔
      vector = called ∧ status.visits called = true ∧
        ∃ registered, table called = some registered ∧ handler = some registered := by
  unfold callAt
  constructor
  · intro h
    split at h
    next hvisit =>
      obtain ⟨registered, hentry, hcall⟩ := Option.map_eq_some_iff.mp h
      obtain ⟨rfl, rfl⟩ := Prod.mk.inj hcall
      exact ⟨rfl, hvisit, registered, hentry, rfl⟩
    next => cases h
  · rintro ⟨rfl, hvisit, registered, hentry, rfl⟩
    rw [if_pos hvisit, hentry]
    rfl

/-- Without the access violation, the vectors visited are the vectors set at entry. -/
theorem call_at_filter (status : Status) (table : Nat → Option H) (vector : Nat) :
    (callAt status table vector).filter (fun call => call.2 ≠ dcsnVector) =
      if (status.word (vector / 32)).getLsbD (vector % 32) ∧ vector ≠ dcsnVector then
        (table vector).map fun handler => (some handler, vector)
      else none := by
  unfold callAt
  by_cases hvector : vector = dcsnVector
  · have hskip : ¬ ((status.word (vector / 32)).getLsbD (vector % 32) = true ∧
        vector ≠ dcsnVector) := fun h => h.2 hvector
    rw [if_neg hskip]
    split
    next => cases table vector with
      | some handler => simp [hvector]
      | none => rfl
    next => rfl
  · have hvisits : status.visits vector = true ↔
        (status.word (vector / 32)).getLsbD (vector % 32) = true ∧ vector ≠ dcsnVector := by
      rw [Status.visits_iff, bit]
      simp [hvector]
    by_cases hvisit : status.visits vector = true
    · rw [if_pos hvisit, if_pos (hvisits.mp hvisit)]
      cases table vector with
      | some handler => simp [hvector]
      | none => rfl
    · rw [if_neg hvisit, if_neg fun h => hvisit (hvisits.mpr h)]
      rfl

/-! ## The interrupt handler -/

/-- An interrupt with some status, undisturbed. -/
theorem irq_handler_run (env : MsiEnvironment) (events : Events H) {status : Status}
    (hsome : status.irqNone = false) (hplugged : status.unplugged = false) :
    (irqHandler events).run (msiWorld env) (Controller.reporting status) =
      (.handled, (Controller.reporting status).serveAll events status 128) := by
  unfold irqHandler
  rw [Program.run_bind, read_status_run]
  exact irq_service_run env events _ hsome hplugged

/-- An interrupt with the given status words calls, in the order of the vectors, the handlers
that were added and not removed since at the vectors that are set. The access violation is
called, if it is registered, when no lower vector is set. -/
theorem interrupt_calls_registered {env env' : MsiEnvironment} {events events' : Events H}
    {controller controller' : Controller H}
    (hinit : (msiInit events).run (msiWorld env) controller = ((0, events'), controller'))
    (calls : List (RegistryCall H)) (status : Status) (hsome : status.irqNone = false)
    (hplugged : status.unplugged = false)
    (hzero : status.word0.getLsbD 0 = true →
      (calls.foldl RegistryCall.update (fun _ => none) 0).isSome = true) :
    let registry := calls.foldl Registry.step ⟨events', controller', ∅⟩
    let table := calls.foldl RegistryCall.update fun _ => none
    let result := (irqHandler registry.events).run (msiWorld env') (Controller.reporting status)
    result.1 = .handled ∧
      (result.2.calls.filter fun call => call.2 ≠ dcsnVector) =
        (List.range saa7231MsiVectors).filterMap (fun vector =>
          if (status.word (vector / 32)).getLsbD (vector % 32) ∧ vector ≠ dcsnVector then
            (table vector).map fun handler => (some handler, vector)
          else none) ∧
      ∀ handler, (handler, dcsnVector) ∈ result.2.calls ↔
        ∃ registered, table dcsnVector = some registered ∧ handler = some registered ∧
          (status.word (dcsnVector / 32)).getLsbD (dcsnVector % 32) = true ∧
          status.seen dcsnVector = false := by
  intro registry table result
  have hempty : (⟨events', controller', ∅⟩ : Registry H).events.Represents fun _ => none :=
    (msi_init_success env hinit).1
  have htable : registry.events.Represents table := hempty.run calls
  have hvisits (hvisit : status.visits 0 = true) : (table 0).isSome = true :=
    hzero (Status.visits_iff.mp hvisit).1
  have hrun : result = (.handled, (Controller.reporting status).serveAll registry.events status
      128) := irq_handler_run env' registry.events hsome hplugged
  have hresult : result.2.calls = visitedCalls status table 128 := by
    rw [hrun]
    exact serve_all_calls htable hvisits _ 128
  refine ⟨congrArg Prod.fst hrun, ?_, fun handler => ?_⟩
  · rw [hresult, visitedCalls, List.filter_filterMap]
    exact List.filterMap_congr fun vector _ => call_at_filter status table vector
  · rw [hresult, visitedCalls, List.mem_filterMap]
    simp only [call_at_eq_some]
    constructor
    · rintro ⟨_, _, rfl, hvisit, registered, hentry, hhandler⟩
      obtain ⟨hbit, hseen⟩ := Status.visits_iff.mp hvisit
      exact ⟨registered, hentry, hhandler, hbit, hseen rfl⟩
    · rintro ⟨registered, hentry, hhandler, hbit, hseen⟩
      exact ⟨dcsnVector, List.mem_range.mpr (by decide), rfl,
        Status.visits_iff.mpr ⟨hbit, fun _ => hseen⟩, registered, hentry, hhandler⟩

/-- Vectors 47 and 48 registered, and 47 removed again: an interrupt at both and at vector 52
calls the handler of vector 48. -/
theorem interrupt_calls_second_input :
    let registry := [.add .plain 47 .rising true, .add .plain 48 .rising false,
      .remove .plain 47].foldl Registry.step ⟨(plainMsi Bool).1.2, (plainMsi Bool).2, ∅⟩
    (((irqHandler registry.events).run (msiWorld .plain)
      (Controller.reporting ⟨0, 0x118000, 0, 0⟩)).2.calls.filter
        fun call => call.2 ≠ dcsnVector) = [(some false, 48)] :=
  (interrupt_calls_registered (plain_msi Bool)
    [.add .plain 47 .rising true, .add .plain 48 .rising false, .remove .plain 47]
    ⟨0, 0x118000, 0, 0⟩ (by decide) (by decide) (by decide)).2.1.trans (by decide +kernel)

end Saa7231
