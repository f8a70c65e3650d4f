import Saa7231.Msi.EnableMask

/-!
# The table of MSI-X vectors

Beside the events the driver keeps a second table of 128 vectors, with the same counter of
handlers. An addition stores the handler but not the number of the vector, and a removal looks for
the number: only vector 0, whose number is the zero of the fresh table, can be removed.
`vectors_match_iff` is the exact condition, over every run of additions and removals.
-/

namespace Saa7231

open Interaction Bus Program

/-- `struct saa7231_msix_entry`; a `NULL` handler is `none`. -/
@[ext] structure MsixEntry (G : Type) where
  vector : Nat
  handler : Option G

/-- The two tables of `struct saa7231_dev`. The counter of handlers is shared. -/
structure MsiTables (H G : Type) where
  events : Events H
  msixHandler : Nat → MsixEntry G

variable {H G : Type}

/-- The tables that `saa7231_msi_init` leaves: the second one is zeroed memory. -/
def MsiTables.fresh (events : Events H) : MsiTables H G where
  events := events
  msixHandler := fun _ => ⟨0, none⟩

/-- The tables with the handler of an entry stored and counted. -/
def MsiTables.added (tables : MsiTables H G) (vector : Nat) (handler : Option G) :
    MsiTables H G where
  events := { tables.events with handlers := tables.events.handlers + 1 }
  msixHandler := fun index =>
    if index = vector then { tables.msixHandler vector with handler := handler }
    else tables.msixHandler index

/-- The tables with an entry cleared and no longer counted. -/
def MsiTables.cleared (tables : MsiTables H G) (vector : Nat) : MsiTables H G where
  events := { tables.events with handlers := tables.events.handlers - 1 }
  msixHandler := fun index =>
    if index = vector then ⟨0, none⟩ else tables.msixHandler index

section Calls

variable {Ext : Type} {ExtAns : Ext → Type}

/-- `saa7231_add_msivector`. -/
def addMsivector (bug : BusProgram ExtAns Unit) (tables : MsiTables H G) (vector : Nat)
    (edge : Edge) (handler : Option G) : BusProgram ExtAns (Int × MsiTables H G) := do
  setupVector bug vector edge
  return (0, tables.added vector handler)

/-- The body of the loop of `saa7231_remove_msivector`, which looks at one entry every time. -/
def removeRound (vector : Nat) (tables : MsiTables H G) : BusProgram ExtAns (MsiTables H G) :=
  let msix := tables.msixHandler vector
  if msix.vector = vector then
    if msix.handler.isSome then do
      vectorCtl vector false
      return tables.cleared vector
    else
      return tables
  else
    return tables

/-- `saa7231_remove_msivector`. -/
def removeMsivector (tables : MsiTables H G) (vector : Nat) :
    BusProgram ExtAns (Int × MsiTables H G) := do
  let tables ← Program.loop saa7231MsiVectors (fun _ tables => removeRound vector tables) tables
  return (0, tables)

/-! ## One call -/

/-- The tables after a removal. -/
def MsiTables.removed (tables : MsiTables H G) (vector : Nat) : MsiTables H G :=
  let msix := tables.msixHandler vector
  if msix.vector = vector ∧ msix.handler.isSome then tables.cleared vector else tables

/-- Once an entry is cleared there is nothing to remove in it. -/
theorem MsiTables.removed_removed (tables : MsiTables H G) (vector : Nat) :
    (tables.removed vector).removed vector = tables.removed vector := by
  by_cases hfound :
      (tables.msixHandler vector).vector = vector ∧ (tables.msixHandler vector).handler.isSome
  · have hcleared : tables.removed vector = tables.cleared vector := if_pos hfound
    rw [hcleared]
    refine if_neg fun hagain => ?_
    have hnone : ((tables.cleared vector).msixHandler vector).handler = none := by
      simp [MsiTables.cleared]
    simp [hnone] at hagain
  · have hsame : tables.removed vector = tables := if_neg hfound
    rw [hsame, hsame]

theorem add_msivector_yields (bug : BusProgram ExtAns Unit) (tables : MsiTables H G) (vector : Nat)
    (edge : Edge) (handler : Option G) :
    (addMsivector bug tables vector edge handler).Yields
      fun result => result = (0, tables.added vector handler) := by
  unfold addMsivector
  rw [yields_bind]
  exact Yields.of_forall fun _ => rfl

theorem remove_round_yields (vector : Nat) (tables : MsiTables H G) :
    (removeRound vector tables : BusProgram ExtAns _).Yields
      fun result => result = tables.removed vector := by
  unfold removeRound MsiTables.removed
  dsimp only
  by_cases hnumber : (tables.msixHandler vector).vector = vector
  · rw [if_pos hnumber]
    by_cases hsome : (tables.msixHandler vector).handler.isSome = true
    · rw [if_pos hsome, if_pos ⟨hnumber, hsome⟩, yields_bind]
      exact Yields.of_forall fun _ => rfl
    · rw [if_neg hsome, if_neg fun hfound => hsome hfound.2]
      exact rfl
  · rw [if_neg hnumber, if_neg fun hfound => hnumber hfound.1]
    exact rfl

/-- The first round removes the entry, the others find it removed. -/
theorem remove_rounds_yields (tables : MsiTables H G) (vector n : Nat) :
    (Program.loop n (fun _ tables => removeRound vector tables) tables : BusProgram ExtAns _).Yields
      fun value => value.removed vector = tables.removed vector ∧
        (0 < n → value = tables.removed vector) := by
  refine Yields.loop (I := fun i value => value.removed vector = tables.removed vector ∧
    (0 < i → value = tables.removed vector)) ⟨rfl, fun h => absurd h (Nat.lt_irrefl 0)⟩ ?_
  intro i _ value h
  refine (remove_round_yields vector value).mono fun next hnext => ?_
  rw [hnext]
  exact ⟨by rw [MsiTables.removed_removed, h.1], fun _ => h.1⟩

theorem remove_msivector_run {σ : Type} (world : World (BusOp Ext) (BusAns ExtAns) σ)
    (tables : MsiTables H G) (vector : Nat) (state : σ) :
    ((removeMsivector tables vector).run world state).1 = (0, tables.removed vector) := by
  have hrounds : 0 < saa7231MsiVectors := by
    unfold saa7231MsiVectors
    omega
  unfold removeMsivector
  generalize saa7231MsiVectors = n at hrounds ⊢
  rw [run_bind, run_pure, ((remove_rounds_yields tables vector n).run world state).2 hrounds]

end Calls

/-! ## Runs of additions and removals -/

/-- The tables, the controller, and the vectors that were added and not removed since. -/
structure MsixRegistry (H G : Type) where
  tables : MsiTables H G
  controller : Controller H
  registered : Finset Nat

/-- Calls of `saa7231_add_msivector` with a handler and of `saa7231_remove_msivector`. -/
inductive MsixCall (G : Type) where
  | add (env : MsiEnvironment) (vector : Nat) (edge : Edge) (handler : G)
  | remove (env : MsiEnvironment) (vector : Nat)

/-- One call. -/
def MsixRegistry.step (registry : MsixRegistry H G) : MsixCall G → MsixRegistry H G
  | .add env vector edge handler =>
      let result := (addMsivector MsiProgram.bug registry.tables vector edge (some handler)).run
        (msiWorld env) registry.controller
      ⟨result.1.2, result.2, insert vector registry.registered⟩
  | .remove env vector =>
      let result := (removeMsivector registry.tables vector).run (msiWorld env) registry.controller
      ⟨result.1.2, result.2, registry.registered.erase vector⟩

/-- Vectors are added when they are not registered, and removed when they are. -/
def MsixCall.Valid (registry : MsixRegistry H G) : MsixCall G → Prop
  | .add _ vector _ _ => vector < 128 ∧ vector ∉ registry.registered
  | .remove _ vector => vector ∈ registry.registered

/-- The entries with a handler are the registered vectors, and the counter is their number. -/
def MsixRegistry.Matches (registry : MsixRegistry H G) : Prop :=
  (∀ vector < 128, (registry.tables.msixHandler vector).handler.isSome = true ↔
      vector ∈ registry.registered) ∧
    registry.tables.events.handlers.toNat = registry.registered.card

/-- No vector but the first is removed. -/
def MsixCall.RemovesFirst : MsixCall G → Prop
  | .add _ _ _ _ => True
  | .remove _ vector => vector = 0

/-- A registry whose table follows its registered vectors. No addition stores a number. -/
structure MsixRegistry.Inv (registry : MsixRegistry H G) : Prop where
  bound : ∀ vector ∈ registry.registered, vector < 128
  number : ∀ vector, (registry.tables.msixHandler vector).vector = 0
  same : registry.Matches

variable {registry : MsixRegistry H G} {env : MsiEnvironment} {vector : Nat} {edge : Edge}
  {handler : G}

theorem MsixRegistry.step_add_tables :
    (registry.step (.add env vector edge handler)).tables =
      registry.tables.added vector (some handler) := by
  have hresult := (add_msivector_yields MsiProgram.bug registry.tables vector edge
    (some handler)).run (msiWorld env) registry.controller
  exact congrArg Prod.snd hresult

theorem MsixRegistry.step_remove_tables :
    (registry.step (.remove env vector)).tables = registry.tables.removed vector := by
  unfold MsixRegistry.step
  dsimp only
  rw [remove_msivector_run]

namespace MsixRegistry.Inv

theorem card_lt (h : registry.Inv) (hvector : vector < 128) (hnew : vector ∉ registry.registered) :
    registry.registered.card < 128 := by
  have hroom := Finset.card_lt_card (Finset.ssubset_insert hnew)
  have hsubset : insert vector registry.registered ⊆ Finset.range 128 := by
    intro other hmem
    rcases Finset.mem_insert.mp hmem with rfl | hold
    · exact Finset.mem_range.mpr hvector
    · exact Finset.mem_range.mpr (h.bound other hold)
  have hall := Finset.card_le_card hsubset
  rw [Finset.card_range] at hall
  omega

theorem add (h : registry.Inv)
    (hvalid : (MsixCall.add env vector edge handler).Valid registry) :
    (registry.step (.add env vector edge handler)).Inv := by
  obtain ⟨hvector, hnew⟩ := hvalid
  have hcard := h.card_lt hvector hnew
  refine ⟨fun other hmem => ?_, fun other => ?_, fun other hother => ?_, ?_⟩
  · rcases Finset.mem_insert.mp hmem with rfl | hold
    · exact hvector
    · exact h.bound other hold
  · rw [step_add_tables]
    show (if other = vector then _ else registry.tables.msixHandler other).vector = 0
    split
    next => exact h.number vector
    next => exact h.number other
  · rw [step_add_tables]
    show (if other = vector then _ else registry.tables.msixHandler other).handler.isSome = true ↔
      other ∈ insert vector registry.registered
    rw [Finset.mem_insert]
    split
    next heq => exact ⟨fun _ => .inl heq, fun _ => rfl⟩
    next hne =>
      rw [h.same.1 other hother]
      exact ⟨.inr, fun hmem => hmem.resolve_left hne⟩
  · rw [step_add_tables]
    show (registry.tables.events.handlers + 1).toNat = (insert vector registry.registered).card
    rw [Finset.card_insert_of_notMem hnew, BitVec.toNat_add, h.same.2]
    show (registry.registered.card + 1) % 2 ^ 8 = registry.registered.card + 1
    omega

/-- The first vector has the number of the fresh table, and its removal finds it. -/
theorem removed_first (h : registry.Inv) (hmem : 0 ∈ registry.registered) :
    registry.tables.removed 0 = registry.tables.cleared 0 :=
  if_pos ⟨h.number 0, (h.same.1 0 (h.bound 0 hmem)).mpr hmem⟩

/-- The removal of any other vector leaves the tables as they are. -/
theorem removed_other (h : registry.Inv) (hvector : vector ≠ 0) :
    registry.tables.removed vector = registry.tables :=
  if_neg fun hfound => hvector (hfound.1.symm.trans (h.number vector))

theorem remove_first (h : registry.Inv)
    (hvalid : (MsixCall.remove env 0 : MsixCall G).Valid registry) :
    (registry.step (.remove env 0)).Inv := by
  have hmem : 0 ∈ registry.registered := hvalid
  have htables : (registry.step (.remove env 0)).tables = registry.tables.cleared 0 :=
    step_remove_tables.trans (h.removed_first hmem)
  refine ⟨fun other hother => h.bound other (Finset.mem_of_mem_erase hother), fun other => ?_,
    fun other hother => ?_, ?_⟩
  · rw [htables]
    show (if other = 0 then ⟨0, none⟩ else registry.tables.msixHandler other).vector = 0
    split
    next => rfl
    next => exact h.number other
  · rw [htables]
    show (if other = 0 then ⟨0, none⟩ else registry.tables.msixHandler other).handler.isSome =
      true ↔ other ∈ registry.registered.erase 0
    rw [Finset.mem_erase]
    split
    next heq => exact ⟨fun hsome => absurd hsome Bool.false_ne_true, fun hne => absurd heq hne.1⟩
    next hne =>
      rw [h.same.1 other hother]
      exact ⟨fun hregistered => ⟨hne, hregistered⟩, And.right⟩
  · have hpositive : 0 < registry.registered.card := Finset.card_pos.mpr ⟨0, hmem⟩
    have hbound := registry.tables.events.handlers.isLt
    rw [htables]
    show (registry.tables.events.handlers - 1).toNat = (registry.registered.erase 0).card
    rw [Finset.card_erase_of_mem hmem, BitVec.toNat_sub]
    show (2 ^ 8 - 1 + registry.tables.events.handlers.toNat) % 2 ^ 8 = registry.registered.card - 1
    have hcount := h.same.2
    omega

/-- A vector that is removed without effect keeps its handler. -/
theorem remove_other (h : registry.Inv)
    (hvalid : (MsixCall.remove env vector : MsixCall G).Valid registry) (hvector : vector ≠ 0) :
    ¬ (registry.step (.remove env vector)).Matches := by
  have hmem : vector ∈ registry.registered := hvalid
  have htables : (registry.step (.remove env vector)).tables = registry.tables :=
    step_remove_tables.trans (h.removed_other hvector)
  have hbound := h.bound vector hmem
  intro hnext
  have hentry := hnext.1 vector hbound
  rw [htables, h.same.1 vector hbound] at hentry
  exact Finset.notMem_erase vector registry.registered (hentry.mp hmem)

theorem step (h : registry.Inv) (call : MsixCall G) (hvalid : call.Valid registry)
    (hfirst : call.RemovesFirst) : (registry.step call).Inv := by
  cases call with
  | add env vector edge handler => exact h.add hvalid
  | remove env vector =>
      obtain rfl : vector = 0 := hfirst
      exact h.remove_first hvalid

/-- An addition and a removal of a new vector give the tables back only if it is the first. -/
theorem add_remove_iff (h : registry.Inv) (hvector : vector < 128)
    (hnew : vector ∉ registry.registered) (env' : MsiEnvironment) :
    ((registry.step (.add env vector edge handler)).step (.remove env' vector)).tables =
      registry.tables ↔ vector = 0 := by
  have hadded : (registry.step (.add env vector edge handler)).Inv := h.add ⟨hvector, hnew⟩
  have hmem : vector ∈ (registry.step (.add env vector edge handler)).registered :=
    Finset.mem_insert_self _ _
  rw [step_remove_tables]
  constructor
  · intro hrestored
    by_contra hne
    rw [hadded.removed_other hne] at hrestored
    have hsome := (hadded.same.1 vector hvector).mpr hmem
    rw [hrestored] at hsome
    exact hnew ((h.same.1 vector hvector).mp hsome)
  · intro hzero
    subst hzero
    rw [hadded.removed_first hmem, step_add_tables]
    have hempty : (registry.tables.msixHandler 0).handler = none := by
      rw [← Option.not_isSome_iff_eq_none, h.same.1 0 hvector]
      exact hnew
    have hentry : registry.tables.msixHandler 0 = ⟨0, none⟩ :=
      MsixEntry.ext (h.number 0) hempty
    have hcount : registry.tables.events.handlers + 1 - 1 = registry.tables.events.handlers :=
      BitVec.add_sub_cancel _ _
    have htable : (((registry.tables.added 0 (some handler)).cleared 0).msixHandler) =
        registry.tables.msixHandler := by
      funext index
      show (if index = 0 then ⟨0, none⟩ else
        if index = 0 then _ else registry.tables.msixHandler index) = _
      split
      next heq => rw [heq, hentry]
      next => rfl
    show MsiTables.mk ⟨registry.tables.events.eventHandler,
      registry.tables.events.handlers + 1 - 1⟩
        ((registry.tables.added 0 (some handler)).cleared 0).msixHandler = registry.tables
    rw [hcount, htable]

end MsixRegistry.Inv

theorem msix_registry_initial {env : MsiEnvironment} {events events' : Events H}
    {controller controller' : Controller H}
    (hinit : (msiInit events).run (msiWorld env) controller = ((0, events'), controller')) :
    (MsixRegistry.mk (G := G) (.fresh events') controller' ∅).Inv := by
  have hhandlers := (msi_init_success env hinit).2.1
  refine ⟨fun _ hmem => absurd hmem (Finset.notMem_empty _), fun _ => rfl, fun _ _ => ?_, ?_⟩
  · exact ⟨fun hsome => absurd hsome Bool.false_ne_true, fun hmem => absurd hmem
      (Finset.notMem_empty _)⟩
  · show events'.handlers.toNat = 0
    rw [hhandlers]
    rfl

/-- Over every valid sequence of additions and removals after a successful initialisation, the
entries with a handler are the vectors added and not yet removed, and counted right, if and only
if no vector but vector 0 is removed. After every such sequence, an addition and a removal of a
new vector give the tables back if and only if it is vector 0. -/
theorem vectors_match_iff {env : MsiEnvironment} {events events' : Events H}
    {controller controller' : Controller H}
    (hinit : (msiInit events).run (msiWorld env) controller = ((0, events'), controller'))
    (calls : List (MsixCall G))
    (hvalid : Each MsixRegistry.step MsixCall.Valid ⟨.fresh events', controller', ∅⟩ calls) :
    (Always MsixRegistry.step MsixRegistry.Matches ⟨.fresh events', controller', ∅⟩ calls ↔
        ∀ call ∈ calls, call.RemovesFirst) ∧
      ((∀ call ∈ calls, call.RemovesFirst) → ∀ (env env' : MsiEnvironment) (vector : Nat)
        (edge : Edge) (handler : G),
        let registry := calls.foldl MsixRegistry.step ⟨.fresh events', controller', ∅⟩
        vector < 128 → vector ∉ registry.registered →
          (((registry.step (.add env vector edge handler)).step (.remove env' vector)).tables =
            registry.tables ↔ vector = 0)) := by
  have hstart := msix_registry_initial (G := G) hinit
  have hsteps : ∀ (state : MsixRegistry H G) (call : MsixCall G), state.Inv → call.Valid state →
      call.RemovesFirst → (state.step call).Inv := fun _ call h => h.step call
  have hguards : Each MsixRegistry.step (fun _ call => call.RemovesFirst)
      ⟨.fresh events', controller', ∅⟩ calls ↔ ∀ call ∈ calls, call.RemovesFirst :=
    each_iff_forall_mem
  constructor
  · rw [← hguards]
    refine always_iff_each hstart (fun _ h => h.same) hsteps ?_ hvalid
    intro state call h hcall hother
    cases call with
    | add env vector edge handler => exact absurd trivial hother
    | remove env vector => exact h.remove_other hcall hother
  · intro hfirst env env' vector edge handler registry hvector hnew
    have hboth := each_and hvalid (hguards.mpr hfirst)
    have hinv : Always MsixRegistry.step MsixRegistry.Inv ⟨.fresh events', controller', ∅⟩ calls :=
      always_of_each hstart (fun _ h => h)
        (fun state call h hcall => hsteps state call h hcall.1 hcall.2) hboth
    have hlast : registry.Inv := always_iff_prefix.mp hinv calls [] (List.append_nil calls).symm
    exact hlast.add_remove_iff hvector hnew env'

/-- The first vector, added and removed. -/
theorem vectors_match_first :
    Always MsixRegistry.step MsixRegistry.Matches
      ⟨.fresh (plainMsi Unit).1.2, (plainMsi Unit).2, ∅⟩
      [MsixCall.add .plain 0 .rising (), .remove .plain 0] := by
  refine (vectors_match_iff (plain_msi Unit) _ ?_).1.mpr ?_
  · exact ⟨⟨by omega, Finset.notMem_empty 0⟩, Finset.mem_insert_self 0 ∅, trivial⟩
  · simp [MsixCall.RemovesFirst]

/-- Vector 3 is added and removed, and keeps its handler. -/
theorem removed_vector_stays :
    Each MsixRegistry.step MsixCall.Valid ⟨.fresh (plainMsi Unit).1.2, (plainMsi Unit).2, ∅⟩
        [MsixCall.add .plain 3 .rising (), .remove .plain 3] ∧
      ¬ Always MsixRegistry.step MsixRegistry.Matches
        ⟨.fresh (plainMsi Unit).1.2, (plainMsi Unit).2, ∅⟩
        [MsixCall.add .plain 3 .rising (), .remove .plain 3] := by
  have hstart := msix_registry_initial (G := Unit) (plain_msi Unit)
  have hadd : (MsixCall.add .plain 3 .rising ()).Valid
      (MsixRegistry.mk (.fresh (plainMsi Unit).1.2) (plainMsi Unit).2 ∅) :=
    ⟨by omega, Finset.notMem_empty 3⟩
  have hremove : (MsixCall.remove .plain 3).Valid
      (MsixRegistry.step ⟨.fresh (plainMsi Unit).1.2, (plainMsi Unit).2, ∅⟩
        (MsixCall.add .plain 3 .rising ())) := Finset.mem_insert_self 3 ∅
  refine ⟨⟨hadd, hremove, trivial⟩, fun halways => ?_⟩
  exact (hstart.add hadd).remove_other hremove (by omega) halways.2.2

end Saa7231
