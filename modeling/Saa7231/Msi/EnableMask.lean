import Saa7231.Interaction.Runs
import Saa7231.Msi.Hardware
import Mathlib.Data.Finset.Card
import Mathlib.Data.Finset.Range

/-!
# Enabled and registered vectors

`saa7231_vector_ctl` reads the enable word of a vector, adds the bit of the vector and writes
the result to the set or to the clear register. To set this is harmless, to clear it disables
every vector of the word: `enable_mask_iff` says that the enabled vectors are the registered
ones as long as an event is removed only when it is alone in its word.
-/

namespace Saa7231

open Interaction Bus PackedBits

variable {H : Type}

/-! ## Enabling and disabling -/

section Vectors

variable (env : MsiEnvironment) (controller : Controller H) {vector : Nat}

theorem vector_ctl_set (hvector : vector < 128) :
    (vectorCtl vector true : MsiProgram H Unit).run (msiWorld env) controller =
      ((), { controller with
        enabled := setBits controller.enabled (vector / 32)
          (controller.enabled (vector / 32) ||| 1#32 <<< (vector % 32)) }) := by
  have hword : vector / 32 < 4 := by omega
  simp only [vectorCtl, Program.run_bind, msi_run_rd_ena _ _ hword, if_true, msi_run_wr,
    Controller.write, msi_reg_ena_set hword]

theorem vector_ctl_clear (hvector : vector < 128) :
    (vectorCtl vector false : MsiProgram H Unit).run (msiWorld env) controller =
      ((), { controller with
        enabled := clearBits controller.enabled (vector / 32)
          (controller.enabled (vector / 32) ||| 1#32 <<< (vector % 32)) }) := by
  have hword : vector / 32 < 4 := by omega
  simp only [vectorCtl, Program.run_bind, msi_run_rd_ena _ _ hword, Bool.false_eq_true, if_false,
    msi_run_wr, Controller.write, msi_reg_ena_clr hword]

/-- Setting the bits of a word together with one more bit sets that bit only. -/
theorem bit_vector_ctl_set {words : Nat → BitVec 32} {index : Nat} :
    bit (setBits words (vector / 32) (words (vector / 32) ||| 1#32 <<< (vector % 32))) index =
      true ↔ bit words index = true ∨ index = vector := by
  rw [bit_set_bits, BitVec.getLsbD_or, Bool.or_eq_true, get_lsb_mask]
  constructor
  · rintro (hset | ⟨hword, hset | hbit⟩)
    · exact Or.inl hset
    · exact Or.inl (by rwa [bit, hword])
    · exact Or.inr (index_eq_iff.mp ⟨hword, hbit⟩)
  · rintro (hset | rfl)
    · exact Or.inl hset
    · exact Or.inr ⟨rfl, Or.inr rfl⟩

/-- Clearing the bits of a word together with one more bit clears the whole word. -/
theorem bit_vector_ctl_clear {words : Nat → BitVec 32} {index : Nat} :
    bit (clearBits words (vector / 32) (words (vector / 32) ||| 1#32 <<< (vector % 32))) index =
      true ↔ bit words index = true ∧ index / 32 ≠ vector / 32 := by
  rw [bit_clear_bits, BitVec.getLsbD_or, Bool.or_eq_true]
  constructor
  · rintro ⟨hset, hkept⟩
    exact ⟨hset, fun hword => hkept ⟨hword, Or.inl (by rwa [bit, hword] at hset)⟩⟩
  · rintro ⟨hset, hword⟩
    exact ⟨hset, fun hcleared => hword hcleared.1⟩

/-- Setting up a vector configures it and sets its enable bit. -/
theorem setup_vector_run (hvector : vector < 128) (edge : Edge) :
    (setupVector MsiProgram.bug vector edge).run (msiWorld env) controller =
      ((), { controller with
        enabled := setBits controller.enabled (vector / 32)
          (controller.enabled (vector / 32) ||| 1#32 <<< (vector % 32)) }) := by
  have hchecked : ¬ vector > saa7231MsiVectors := by
    unfold saa7231MsiVectors
    omega
  simp only [setupVector, hchecked, if_false, Program.run_bind, msi_run_rd, msi_run_wr,
    Controller.write, msi_reg_config hvector, vector_ctl_set env _ hvector]

end Vectors

/-! ## Initialisation -/

section Init

variable (env : MsiEnvironment)

/-- The clearing loop disables every vector. -/
theorem msi_clear_run (controller : Controller H) {i : Nat} (hi : i < 4) :
    ((msiClear i).run (msiWorld env) controller).2.enabled =
      Function.update controller.enabled i 0 := by
  have hwr : ∀ (controller : Controller H) (value : BitVec 32) (address : Nat),
      (wrNonzero value address).run (msiWorld env) controller =
        ((), if value ≠ 0 then controller.write value address else controller) := by
    intro controller value address
    unfold wrNonzero
    split <;> rfl
  simp only [msiClear, Program.run_bind, msi_run_rd_ena _ _ hi, msi_run_rd_status _ _ hi, hwr]
  have hstatus : ∀ controller : Controller H, ∀ value : BitVec 32,
      (if value ≠ 0 then controller.write value (Mod.msi + msiIntStatusClr i)
        else controller).enabled = controller.enabled := by
    intro controller value
    unfold Controller.write
    rw [msi_reg_status_clr hi]
    split <;> rfl
  rw [hstatus]
  unfold Controller.write
  rw [msi_reg_ena_clr hi]
  by_cases hzero : controller.enabled i = 0
  · rw [if_neg (not_not.mpr hzero), ← hzero, Function.update_eq_self]
  · rw [if_pos hzero]
    show Function.update controller.enabled i _ = _
    rw [BitVec.and_not_self]

/-- The last loop reads registers only. -/
theorem msi_check_reset_run (controller : Controller H) (i n : Nat) :
    ((msiCheckReset i n).run (msiWorld env) controller).2 = controller := by
  induction n generalizing i with
  | zero => rfl
  | succ n ih =>
      simp only [msiCheckReset, Program.run_bind, msi_run_rd, Program.run_ite, Program.run_pure]
      split
      next => rfl
      next => exact ih (i + 1)

/-- The configuration of the vectors leaves the enable bits alone. -/
theorem msi_config_loop_run (controller : Controller H) {n : Nat} (hn : n ≤ 128) :
    (Program.loop n (fun i _ => (wr 0x01000000 (Mod.msi + msiConfig i) : MsiProgram H Unit))
      ()).run (msiWorld env) controller = ((), controller) := by
  induction n with
  | zero => rfl
  | succ n ih =>
      have hwrite := controller.write_other 0x01000000 (msi_reg_config hn)
      simp only [Program.loop, Program.run_bind, ih (Nat.le_of_succ_le hn), msi_run_wr, hwrite]

/-- The clearing loop disables one word after the other. -/
theorem msi_clear_loop_run (controller : Controller H) :
    ∀ word < 4, ((Program.loop saa7231MsiLoops (fun i _ => (msiClear i : MsiProgram H Unit))
      ()).run (msiWorld env) controller).2.enabled word = 0 := by
  refine Program.run_loop
    (I := fun n _ (controller : Controller H) => ∀ word < n, controller.enabled word = 0)
    (fun _ h => absurd h (Nat.not_lt_zero _)) ?_
  intro i hi _ controller hcleared word hword
  rw [msi_clear_run env controller hi]
  by_cases hsame : word = i
  · rw [hsame, Function.update_self]
  · rw [Function.update_of_ne hsame]
    exact hcleared word (by omega)

/-- With all vectors disabled the reset counts as done. -/
theorem msi_check_reset_value (controller : Controller H) (i n : Nat) (hbound : i + n ≤ 4)
    (hdisabled : ∀ word < 4, controller.enabled word = 0) :
    ((msiCheckReset i n).run (msiWorld env) controller).1 = true := by
  have hpassed : ∀ status, resetFailed 0 status = false := by
    intro status
    simp [resetFailed]
  induction n generalizing i with
  | zero => rfl
  | succ n ih =>
      have hi : i < 4 := by omega
      simp only [msiCheckReset, Program.run_bind, msi_run_rd_ena _ _ hi, msi_run_rd_status _ _ hi,
        hdisabled i hi, hpassed, Bool.false_eq_true, if_false]
      exact ih (i + 1) (by omega)

/-- What the initialisation does once its memory is granted. -/
theorem msi_init_run (events : Events H) (controller : Controller H) :
    ∃ cleared : Controller H, (∀ word < 4, cleared.enabled word = 0) ∧
      (msiInit events).run (msiWorld env) controller =
        if env.granted controller.requests = false then
          ((-enomem, events), { controller with requests := controller.requests + 1 })
        else if env.granted (controller.requests + 1) = false then
          ((-enomem, events), { controller with requests := controller.requests + 2 })
        else
          ((0, ⟨fun _ => ⟨0, none⟩, 0⟩), cleared) := by
  have hreset := fun controller : Controller H =>
    controller.write_other 0x01 (show msiReg (Mod.msi + msiSwRst) = .other from rfl)
  have htimer := fun controller : Controller H =>
    controller.write_other 0x00 (show msiReg (Mod.msi + msiDelayTimer) = .other from rfl)
  have hpolarity := fun controller : Controller H =>
    controller.write_other defaultSaa7231IntaPolarity
      (show msiReg (Mod.msi + msiIntaPolarity) = .other from rfl)
  have hconfig := fun controller : Controller H =>
    msi_config_loop_run env controller (show saa7231MsiRegs ≤ 128 from le_refl 128)
  refine ⟨_, msi_clear_loop_run env { controller with requests := controller.requests + 2 }, ?_⟩
  have hpassed := msi_check_reset_value env _ 0 saa7231MsiLoops (le_refl 4)
    (msi_clear_loop_run env { controller with requests := controller.requests + 2 })
  simp only [msiInit, Program.run_bind, msi_run_kzalloc, Program.run_ite, Program.run_pure,
    msi_run_wr, msi_run_delay, msi_run_rd, msi_check_reset_run, hreset, htimer, hpolarity,
    hconfig, hpassed, Bool.not_eq_true', if_true]

/-- A successful initialisation leaves an empty table and no vector enabled. -/
theorem msi_init_success {events events' : Events H} {controller controller' : Controller H}
    (hinit : (msiInit events).run (msiWorld env) controller = ((0, events'), controller')) :
    (∀ vector, events'.eventHandler vector = ⟨0, none⟩) ∧ events'.handlers = 0 ∧
      ∀ vector < 128, bit controller'.enabled vector = false := by
  obtain ⟨cleared, hcleared, hrun⟩ := msi_init_run env events controller
  have hfailed : ¬ -enomem = 0 := by decide
  rw [hrun] at hinit
  split at hinit
  next => exact absurd (congrArg (·.1.1) hinit) hfailed
  next =>
      split at hinit
      next => exact absurd (congrArg (·.1.1) hinit) hfailed
      next =>
          obtain ⟨⟨-, rfl⟩, rfl⟩ := Prod.mk.injEq .. ▸ hinit
          refine ⟨fun _ => rfl, rfl, fun vector hvector => ?_⟩
          unfold bit
          rw [hcleared _ (by omega)]
          exact BitVec.getLsbD_zero

/-- The initialisation on a cleared controller where every request is granted. -/
def plainMsi (H : Type) : (Int × Events H) × Controller H :=
  (msiInit ⟨fun _ => ⟨0, none⟩, 0⟩).run (msiWorld .plain) .reset

theorem plain_msi (H : Type) : (msiInit ⟨fun _ => ⟨0, none⟩, 0⟩).run (msiWorld .plain) .reset =
    ((0, (plainMsi H).1.2), (plainMsi H).2) := by
  obtain ⟨cleared, -, hrun⟩ := msi_init_run .plain
    (⟨fun _ => ⟨0, none⟩, 0⟩ : Events H) Controller.reset
  unfold plainMsi
  rw [hrun]
  rfl

end Init

/-! ## Runs of registrations -/

/-- The event table, the controller, and the vectors that were added and not removed since. -/
structure Registry (H : Type) where
  events : Events H
  controller : Controller H
  registered : Finset Nat

/-- Calls of `saa7231_add_irqevent` with a handler and of `saa7231_remove_irqevent`. -/
inductive RegistryCall (H : Type) where
  | add (env : MsiEnvironment) (vector : Nat) (edge : Edge) (handler : H)
  | remove (env : MsiEnvironment) (vector : Nat)

/-- One call. -/
def Registry.step (registry : Registry H) : RegistryCall H → Registry H
  | .add env vector edge handler =>
      let result := (addIrqevent MsiProgram.bug registry.events vector edge (some handler)).run
        (msiWorld env) registry.controller
      ⟨result.1.2, result.2, insert vector registry.registered⟩
  | .remove env vector =>
      let result := (removeIrqevent registry.events vector).run (msiWorld env) registry.controller
      ⟨result.1.2, result.2, registry.registered.erase vector⟩

/-- Vectors are added when they are not registered, and removed when they are. -/
def RegistryCall.Valid (registry : Registry H) : RegistryCall H → Prop
  | .add _ vector _ _ => vector < 128 ∧ vector ∉ registry.registered
  | .remove _ vector => vector ∈ registry.registered

/-- The enabled vectors are the registered ones, and the count of handlers is their number. -/
def Registry.MaskMatches (registry : Registry H) : Prop :=
  (∀ vector < 128, bit registry.controller.enabled vector = true ↔ vector ∈ registry.registered) ∧
    registry.events.handlers.toNat = registry.registered.card

/-- An event is removed only when no other registered vector shares its word. -/
def RegistryCall.Alone (registry : Registry H) : RegistryCall H → Prop
  | .add _ _ _ _ => True
  | .remove _ vector => ∀ other ∈ registry.registered, other / 32 = vector / 32 → other = vector

/-- A registry whose enable bits follow its registered vectors. -/
structure Registry.Inv (registry : Registry H) : Prop where
  bound : ∀ vector ∈ registry.registered, vector < 128
  handler : ∀ vector ∈ registry.registered,
    (registry.events.eventHandler vector).handler.isSome = true
  mask : registry.MaskMatches

variable {registry : Registry H} {vector : Nat}

theorem Registry.Inv.card_le (h : registry.Inv) : registry.registered.card ≤ 128 := by
  have hsubset : registry.registered ⊆ Finset.range 128 := fun vector hmem =>
    Finset.mem_range.mpr (h.bound vector hmem)
  simpa using Finset.card_le_card hsubset

/-- Adding an event enables its vector and no other. -/
theorem Registry.Inv.add (h : registry.Inv) (env : MsiEnvironment) (edge : Edge) (handler : H)
    (hvalid : (RegistryCall.add env vector edge handler).Valid registry) :
    (registry.step (.add env vector edge handler)).Inv := by
  obtain ⟨hvector, hnew⟩ := hvalid
  have hmask := h.mask
  unfold Registry.step
  simp only [addIrqevent, Program.run_bind, Program.run_pure, setup_vector_run env _ hvector]
  refine ⟨?_, ?_, ?_, ?_⟩
  · intro other hmem
    rcases Finset.mem_insert.mp hmem with rfl | hold
    · exact hvector
    · exact h.bound other hold
  · intro other hmem
    dsimp only
    split
    next => rfl
    next hother => exact h.handler other ((Finset.mem_insert.mp hmem).resolve_left hother)
  · intro other hother
    rw [bit_vector_ctl_set, hmask.1 other hother, Finset.mem_insert, or_comm]
  · have hcard : registry.registered.card < 128 := by
      have hroom := Finset.card_lt_card (Finset.ssubset_insert hnew)
      have hsubset : insert vector registry.registered ⊆ Finset.range 128 := by
        intro other hmem
        rcases Finset.mem_insert.mp hmem with rfl | hold
        · exact Finset.mem_range.mpr hvector
        · exact Finset.mem_range.mpr (h.bound other hold)
      have hall := Finset.card_le_card hsubset
      rw [Finset.card_range] at hall
      omega
    show (registry.events.handlers + 1).toNat = (insert vector registry.registered).card
    rw [Finset.card_insert_of_notMem hnew, BitVec.toNat_add, hmask.2]
    show (registry.registered.card + 1) % 2 ^ 8 = registry.registered.card + 1
    omega

theorem Registry.step_remove (h : registry.Inv) (env : MsiEnvironment)
    (hvalid : (RegistryCall.remove env vector : RegistryCall H).Valid registry) :
    registry.step (.remove env vector) =
      ⟨{ eventHandler := fun index =>
            if index = vector then ⟨0, none⟩ else registry.events.eventHandler index
         handlers := registry.events.handlers - 1 },
        { registry.controller with
          enabled := clearBits registry.controller.enabled (vector / 32)
            (registry.controller.enabled (vector / 32) ||| 1#32 <<< (vector % 32)) },
        registry.registered.erase vector⟩ := by
  have hvector := h.bound vector hvalid
  simp only [Registry.step, removeIrqevent, h.handler vector hvalid, if_true, Program.run_bind,
    Program.run_pure, vector_ctl_clear env _ hvector]

/-- Removing an event that is alone in its word disables its vector and no other. -/
theorem Registry.Inv.remove (h : registry.Inv) (env : MsiEnvironment)
    (hvalid : (RegistryCall.remove env vector : RegistryCall H).Valid registry)
    (halone : (RegistryCall.remove env vector : RegistryCall H).Alone registry) :
    (registry.step (.remove env vector)).Inv := by
  have hmask := h.mask
  have hmem : vector ∈ registry.registered := hvalid
  rw [Registry.step_remove h env hvalid]
  refine ⟨?_, ?_, ?_, ?_⟩
  · intro other hother
    exact h.bound other (Finset.mem_of_mem_erase hother)
  · intro other hother
    dsimp only
    rw [if_neg (Finset.ne_of_mem_erase hother)]
    exact h.handler other (Finset.mem_of_mem_erase hother)
  · intro other hother
    rw [bit_vector_ctl_clear, hmask.1 other hother, Finset.mem_erase, and_comm]
    refine and_congr_left fun hregistered => ?_
    exact ⟨fun hword heq => hword (by rw [heq]),
      fun hne hword => hne (halone other hregistered hword)⟩
  · have hpositive : 0 < registry.registered.card := Finset.card_pos.mpr ⟨vector, hmem⟩
    have hle := h.card_le
    show (registry.events.handlers - 1).toNat = (registry.registered.erase vector).card
    rw [Finset.card_erase_of_mem hmem, BitVec.toNat_sub, hmask.2]
    show (2 ^ 8 - 1 + registry.registered.card) % 2 ^ 8 = registry.registered.card - 1
    omega

/-- Removing an event that shares its word disables the others as well. -/
theorem Registry.Inv.remove_shared (h : registry.Inv) (env : MsiEnvironment)
    (hvalid : (RegistryCall.remove env vector : RegistryCall H).Valid registry)
    (hshared : ¬ (RegistryCall.remove env vector : RegistryCall H).Alone registry) :
    ¬ (registry.step (.remove env vector)).MaskMatches := by
  obtain ⟨other, hnotalone⟩ := not_forall.mp hshared
  obtain ⟨hother, hword, hne⟩ : other ∈ registry.registered ∧ other / 32 = vector / 32 ∧
      other ≠ vector := by
    simpa only [Classical.not_imp] using hnotalone
  rw [Registry.step_remove h env hvalid]
  rintro ⟨hmask, -⟩
  have henabled := (hmask other (h.bound other hother)).mpr
    (Finset.mem_erase.mpr ⟨hne, hother⟩)
  exact (bit_vector_ctl_clear.mp henabled).2 hword

theorem Registry.Inv.always_mask_iff (h : registry.Inv) {calls : List (RegistryCall H)}
    (hvalid : Each Registry.step RegistryCall.Valid registry calls) :
    Always Registry.step Registry.MaskMatches registry calls ↔
      Each Registry.step RegistryCall.Alone registry calls := by
  refine always_iff_each h (fun _ hinv => hinv.mask) ?_ ?_ hvalid
  · intro state call hinv hcall halone
    cases call with
    | add env vector edge handler => exact hinv.add env edge handler hcall
    | remove env vector => exact hinv.remove env hcall halone
  · intro state call hinv hcall hshared
    cases call with
    | add env vector edge handler => exact absurd trivial hshared
    | remove env vector => exact hinv.remove_shared env hcall hshared

theorem registry_initial {env : MsiEnvironment} {events events' : Events H}
    {controller controller' : Controller H}
    (hinit : (msiInit events).run (msiWorld env) controller = ((0, events'), controller')) :
    (Registry.mk events' controller' ∅).Inv := by
  obtain ⟨-, hhandlers, hdisabled⟩ := msi_init_success env hinit
  refine ⟨?_, ?_, ?_, ?_⟩
  · exact fun _ hmem => absurd hmem (Finset.notMem_empty _)
  · exact fun _ hmem => absurd hmem (Finset.notMem_empty _)
  · intro vector hvector
    rw [hdisabled vector hvector]
    simp
  · rw [hhandlers]
    rfl

/-- Over every valid sequence of registrations and removals after a successful
initialisation, the enabled vectors are the registered ones, and counted right, if and only if
every event is removed while no other registered vector shares its word. -/
theorem enable_mask_iff {env : MsiEnvironment} {events events' : Events H}
    {controller controller' : Controller H}
    (hinit : (msiInit events).run (msiWorld env) controller = ((0, events'), controller'))
    (calls : List (RegistryCall H))
    (hvalid : Each Registry.step RegistryCall.Valid ⟨events', controller', ∅⟩ calls) :
    Always Registry.step Registry.MaskMatches ⟨events', controller', ∅⟩ calls ↔
      Each Registry.step RegistryCall.Alone ⟨events', controller', ∅⟩ calls :=
  (registry_initial hinit).always_mask_iff hvalid

/-- One event, added and removed. -/
theorem enable_mask_one_event :
    Always Registry.step Registry.MaskMatches ⟨(plainMsi Unit).1.2, (plainMsi Unit).2, ∅⟩
        [.add .plain 47 .rising (), .remove .plain 47] ↔
      Each Registry.step RegistryCall.Alone ⟨(plainMsi Unit).1.2, (plainMsi Unit).2, ∅⟩
        [.add .plain 47 .rising (), .remove .plain 47] := by
  refine enable_mask_iff (plain_msi Unit) _ ⟨⟨by decide, Finset.notMem_empty 47⟩, ?_, trivial⟩
  exact Finset.mem_insert_self 47 ∅

/-- The events of both external inputs, the first of which is removed. -/
def removeFirstInput : List (RegistryCall Unit) :=
  [.add .plain 47 .rising (), .add .plain 48 .rising (), .remove .plain 47]

/-- Removing vector 47 disables vector 48, which stays registered. -/
theorem removal_disables_neighbour :
    Each Registry.step RegistryCall.Valid ⟨(plainMsi Unit).1.2, (plainMsi Unit).2, ∅⟩
        removeFirstInput ∧
      ¬ Always Registry.step Registry.MaskMatches ⟨(plainMsi Unit).1.2, (plainMsi Unit).2, ∅⟩
        removeFirstInput := by
  have hvalid : Each Registry.step RegistryCall.Valid
      ⟨(plainMsi Unit).1.2, (plainMsi Unit).2, ∅⟩ removeFirstInput := by
    refine ⟨⟨by decide, Finset.notMem_empty 47⟩, ⟨by decide, ?_⟩, ?_, trivial⟩
    · show 48 ∉ ({47} : Finset Nat)
      decide
    · show 47 ∈ ({48, 47} : Finset Nat)
      decide
  refine ⟨hvalid, ?_⟩
  rw [(registry_initial (plain_msi Unit)).always_mask_iff hvalid]
  rintro ⟨-, -, halone, -⟩
  exact absurd (halone 48 (Finset.mem_insert_self 48 _) rfl) (by decide)

end Saa7231
