import Saa7231.Dvb.Evhandler
import Saa7231.Dvb.NullHandler
import Saa7231.Hardware.Patch
import Saa7231.Interaction.Commuting
import Saa7231.Stream.FreshStream

/-!
# Two external adapters do not meet

The event handlers of both external inputs run on one array of adapters and one set of
registers. Each keeps to its own element of the array, its own stream-to-DMA module and its own
MMU channel, whatever index it passes to `saa7231_ts2dtl_set_buffer`. So an event of one adapter
leaves the other alone, and only the order of the events of each adapter matters
(`external_adapters_independent`).
-/

namespace Saa7231

open Interaction Bus

/-! ## Cards -/

/-- The adapter whose element of the array an event handler takes. -/
def DvbHandler.adapter : DvbHandler → Nat
  | .dvbts2d0Evhandler => 0
  | .dvbts2d1Evhandler => 1

/-- The code of an event handler. -/
def DvbHandler.evhandler : DvbHandler → List Dvb → BoardProgram (List Dvb)
  | .dvbts2d0Evhandler => Saa7231.dvbts2d0Evhandler
  | .dvbts2d1Evhandler => Saa7231.dvbts2d1Evhandler

/-- What the events of one adapter leave beside registers: how many registers they read, the
indices read behind the buffer array, and the buffers given to the demux, the latest first. -/
structure Meter where
  reads : Nat
  overruns : List Nat
  delivered : List Nat

/-- The adapters of a card, the registers that they share, and the records of each. -/
structure Card where
  dvb : List Dvb
  regs : Nat → BitVec 32
  meter : DvbHandler → Meter

/-- An event of an adapter. Its environment holds the readings that the adapter will see, by
their number among the readings of the adapter. -/
structure CardEvent where
  handler : DvbHandler
  env : Environment

/-- The board that the handler of an adapter finds. -/
def Meter.board (meter : Meter) (regs : Nat → BitVec 32) : Board :=
  { Board.reset with
    regs := regs, reads := meter.reads, overruns := meter.overruns, delivered := meter.delivered }

/-- The records on a board. -/
def Board.meter (board : Board) : Meter := ⟨board.reads, board.overruns, board.delivered⟩

/-- One event. -/
def Card.step (card : Card) (event : CardEvent) : Card :=
  let result := (event.handler.evhandler card.dvb).run (boardWorld event.env)
    ((card.meter event.handler).board card.regs)
  { dvb := result.1
    regs := result.2.regs
    meter := Function.update card.meter event.handler result.2.meter }

/-- The registers of the stream of an external adapter: its stream-to-DMA module and its MMU
channel. -/
def ExternRegs (handler : DvbHandler) (address : Nat) : Prop :=
  EngineRegs (AdapterType.external.tsPort handler.adapter)
    (AdapterType.external.tsModule handler.adapter) address

/-- The stream is on the external port of the adapter, and drives the module of that port. -/
def Stream.OnExtern (stream : Stream) (handler : DvbHandler) : Prop :=
  stream.portId = AdapterType.external.tsPort handler.adapter ∧
    stream.dtl.module = AdapterType.external.tsModule handler.adapter

/-- The first two adapters have streams on the two external ports. -/
def Card.Wired (card : Card) : Prop :=
  ∀ handler : DvbHandler, ∃ dvb stream, card.dvb[handler.adapter]? = some dvb ∧
    dvb.stream = some stream ∧ stream.OnExtern handler

/-! ## Addresses -/

theorem adapter_injective {handler other : DvbHandler} (hother : other ≠ handler) :
    handler.adapter ≠ other.adapter := by
  cases handler <;> cases other <;> first | exact absurd rfl hother | decide

/-- The slots of a channel end where those of the next begin, and the modules are apart. -/
theorem extern_regs_disjoint {handler other : DvbHandler} (hother : other ≠ handler)
    {address : Nat} (hin : ExternRegs handler address) : ¬ ExternRegs other address := by
  -- Both handlers take one of the first two adapters, and the distances follow by arithmetic.
  have hne := adapter_injective hother
  have hbound : ∀ handler : DvbHandler, handler.adapter < 2 := by
    intro handler
    cases handler <;> decide
  have hfirst := hbound handler
  have hsecond := hbound other
  simp only [ExternRegs, EngineRegs, InModule, InChannel, AdapterType.tsModule,
    AdapterType.tsPort, dmach, mmuDmaConfig, ptaBase, Mod.mmu, Mod.ts2d0Extern,
    streamPortTs2dExtern0] at hin ⊢
  omega

/-! ## One event -/

theorem SameHardware.on_input {stream stream' : Stream} {handler : DvbHandler}
    (h : SameHardware stream stream') (hinput : stream.OnExtern handler) :
    stream'.OnExtern handler :=
  ⟨h.portId.trans hinput.1, h.module.trans hinput.2⟩

/-- The handler of an adapter changes its element of the array only. -/
theorem evhandler_run_array (env : Environment) {handler : DvbHandler} {array : List Dvb}
    {dvb : Dvb} (hdvb : array[handler.adapter]? = some dvb) (board : Board) :
    (handler.evhandler array).run (boardWorld env) board =
      (array.set handler.adapter ((adapterEvhandler dvb).run (boardWorld env) board).1,
        ((adapterEvhandler dvb).run (boardWorld env) board).2) := by
  have hcode : handler.evhandler array = dvbEvhandler handler.adapter array := by
    cases handler <;> rfl
  rw [hcode]
  unfold dvbEvhandler
  rw [hdvb]
  simp only [Program.run_bind, Program.run_pure]

/-- An event replaces the adapter and its records by ones that depend on these alone, and
patches the registers of the adapter. -/
theorem Card.step_effect (event : CardEvent) {dvb : Dvb} {stream : Stream}
    (hstream : dvb.stream = some stream) (hinput : stream.OnExtern event.handler)
    (meter : Meter) :
    ∃ (dvb' : Dvb) (meter' : Meter) (writes : Nat → Option (BitVec 32)),
      (∃ stream', dvb'.stream = some stream' ∧ stream'.OnExtern event.handler) ∧
      (∀ address, writes address ≠ none → ExternRegs event.handler address) ∧
      ∀ card : Card, card.dvb[event.handler.adapter]? = some dvb →
        card.meter event.handler = meter →
        card.step event =
          ⟨card.dvb.set event.handler.adapter dvb', patch writes card.regs,
            Function.update card.meter event.handler meter'⟩ := by
  have honly : (adapterEvhandler dvb).Only
      (Touches (ExternRegs event.handler) [.overruns, .delivered]) := by
    unfold adapterEvhandler
    rw [hstream]
    refine Program.Only.bind (only_evhandler fun address hin => ?_) fun _ => trivial
    rwa [hinput.1, hinput.2] at hin
  -- The value, the records and the writes are those of a run on cleared registers.
  obtain ⟨writes, hwrites, hpatch⟩ :=
    run_patch event.env honly (meter.board Board.reset.regs)
  have hkept : ∃ stream', ((adapterEvhandler dvb).run (boardWorld event.env)
      (meter.board Board.reset.regs)).1.stream = some stream' ∧
      stream'.OnExtern event.handler := by
    rw [adapter_evhandler_run event.env _ hstream]
    exact ⟨_, rfl, (evhandler_yields.run (boardWorld event.env) _).on_input hinput⟩
  refine ⟨_, Board.meter ((adapterEvhandler dvb).run (boardWorld event.env)
    (meter.board Board.reset.regs)).2, writes, hkept, hwrites, fun card hdvb hmeter => ?_⟩
  have hboard : (card.meter event.handler).board card.regs =
      (meter.board Board.reset.regs).withRegs card.regs := by
    rw [hmeter]
    rfl
  unfold Card.step
  rw [evhandler_run_array event.env hdvb, hboard, hpatch]
  rfl

namespace Card.Wired

variable {card : Card}

/-- What an event does to a wired card. -/
theorem effect (h : card.Wired) (event : CardEvent) :
    ∃ (dvb' : Dvb) (meter' : Meter) (writes : Nat → Option (BitVec 32)),
      (∃ stream', dvb'.stream = some stream' ∧ stream'.OnExtern event.handler) ∧
      (∀ address, writes address ≠ none → ExternRegs event.handler address) ∧
      ∀ card' : Card,
        card'.dvb[event.handler.adapter]? = card.dvb[event.handler.adapter]? →
        card'.meter event.handler = card.meter event.handler →
        card'.step event =
          ⟨card'.dvb.set event.handler.adapter dvb', patch writes card'.regs,
            Function.update card'.meter event.handler meter'⟩ := by
  obtain ⟨dvb, stream, hdvb, hstream, hinput⟩ := h event.handler
  obtain ⟨dvb', meter', writes, hkept, hwrites, hstep⟩ :=
    Card.step_effect event hstream hinput (card.meter event.handler)
  exact ⟨dvb', meter', writes, hkept, hwrites,
    fun card' hdvb' hmeter' => hstep card' (hdvb'.trans hdvb) hmeter'⟩

/-- An event of one adapter leaves the other adapter, its records and its registers alone. -/
theorem frame (h : card.Wired) (event : CardEvent) {other : DvbHandler}
    (hother : other ≠ event.handler) :
    (card.step event).dvb[other.adapter]? = card.dvb[other.adapter]? ∧
      (card.step event).meter other = card.meter other ∧
      ∀ address, ExternRegs other address → (card.step event).regs address = card.regs address := by
  obtain ⟨dvb', meter', writes, -, hwrites, hstep⟩ := h.effect event
  rw [hstep card rfl rfl]
  refine ⟨?_, Function.update_of_ne hother _ _, fun address hin => ?_⟩
  · exact List.getElem?_set_ne (adapter_injective hother)
  · exact patch_frame hwrites fun hown => extern_regs_disjoint hother hown hin

/-- Both adapters stay on their ports. -/
theorem step (h : card.Wired) (event : CardEvent) : (card.step event).Wired := by
  intro handler
  by_cases hhandler : handler = event.handler
  · subst hhandler
    obtain ⟨dvb', meter', writes, ⟨stream', hstream', hinput'⟩, -, hstep⟩ := h.effect event
    obtain ⟨dvb, -, hdvb, -⟩ := h event.handler
    obtain ⟨hlt, -⟩ := List.getElem?_eq_some_iff.mp hdvb
    rw [hstep card rfl rfl]
    exact ⟨dvb', stream', List.getElem?_set_self hlt, hstream', hinput'⟩
  · obtain ⟨dvb, stream, hdvb, hstream, hinput⟩ := h handler
    exact ⟨dvb, stream, (h.frame event hhandler).1.trans hdvb, hstream, hinput⟩

end Card.Wired

/-- Events of the two adapters commute. -/
theorem Card.commutes : Commutes Card.step CardEvent.handler Card.Wired := by
  intro card first second h hne
  obtain ⟨dvb₁, meter₁, writes₁, -, hwrites₁, hstep₁⟩ := h.effect first
  obtain ⟨dvb₂, meter₂, writes₂, -, hwrites₂, hstep₂⟩ := h.effect second
  -- In either order each event finds its adapter and its records as they were.
  have hframe₁ := h.frame first hne.symm
  have hframe₂ := h.frame second hne
  rw [hstep₂ _ hframe₁.1 hframe₁.2.1, hstep₁ _ hframe₂.1 hframe₂.2.1, hstep₁ card rfl rfl,
    hstep₂ card rfl rfl]
  show Card.mk _ _ _ = Card.mk _ _ _
  congr 1
  · exact List.set_comm _ _ (adapter_injective hne.symm)
  · exact patch_comm hwrites₂ hwrites₁ fun _ hin => extern_regs_disjoint hne hin
  · exact Function.update_comm hne _ _ _

/-- On a card with two external adapters, an event of one adapter leaves the other adapter (the
cursors of its ring, `index_w` and the counters of its engine among it), its records and every
register of its MMU channel and its stream-to-DMA module unchanged. Any two interleavings of the
same event sequences of the adapters end in the same state, with the same deliveries. -/
theorem external_adapters_independent {card : Card} (h : card.Wired) :
    (∀ (event : CardEvent) (other : DvbHandler), other ≠ event.handler →
      (card.step event).dvb[other.adapter]? = card.dvb[other.adapter]? ∧
        (card.step event).meter other = card.meter other ∧
        ∀ address, ExternRegs other address →
          (card.step event).regs address = card.regs address) ∧
      ∀ events events' : List CardEvent, SameSequences CardEvent.handler events events' →
        events.foldl Card.step card = events'.foldl Card.step card :=
  ⟨fun event _ hother => h.frame event hother, fun _ _ hsame =>
    foldl_eq_of_same_sequences Card.commutes (fun _ event hwired => hwired.step event) hsame h⟩

/-- The two streams that `saa7231_dvb_init` initialises for two external adapters. -/
theorem Card.wired_of_init {env env' : Environment} {config : TsConfig} {pages : Nat}
    {before middle after : Board} {first second : Stream} (regs : Nat → BitVec 32)
    (meter : DvbHandler → Meter)
    (hfirst : (streamInit config .digitalCapture .external 0 pages).run (boardWorld env) before =
      (some first, middle))
    (hsecond : (streamInit config .digitalCapture .external 1 pages).run (boardWorld env')
      middle = (some second, after)) :
    Card.Wired ⟨[⟨0, 47, true, 0, some first⟩, ⟨1, 48, true, 0, some second⟩], regs, meter⟩ := by
  have hfresh := stream_init_fresh env hfirst
  have hfresh' := stream_init_fresh env' hsecond
  intro handler
  cases handler with
  | dvbts2d0Evhandler => exact ⟨_, first, rfl, rfl, hfresh.portId, hfresh.module⟩
  | dvbts2d1Evhandler => exact ⟨_, second, rfl, rfl, hfresh'.portId, hfresh'.module⟩

/-- The second external transport stream, initialised after the first. -/
def plainInitSecond : Option Stream × Board :=
  (streamInit ⟨0, 0, 0, 0⟩ .digitalCapture .external 1 tsPages188).run (boardWorld .plain)
    plainInit.2

/-- Two events of the first adapter and one of the second, which comes in the middle or last. -/
theorem external_adapters_independent_three :
    ∃ first second, plainInit.1 = some first ∧ plainInitSecond.1 = some second ∧
      ∀ card : Card,
        card.dvb = [⟨0, 47, true, 0, some first⟩, ⟨1, 48, true, 0, some second⟩] →
        [⟨.dvbts2d0Evhandler, .plain⟩, ⟨.dvbts2d1Evhandler, .plain⟩,
            ⟨.dvbts2d0Evhandler, .plain⟩].foldl Card.step card =
          [⟨.dvbts2d0Evhandler, .plain⟩, ⟨.dvbts2d0Evhandler, .plain⟩,
            ⟨.dvbts2d1Evhandler, .plain⟩].foldl Card.step card := by
  obtain ⟨first, hfirst⟩ := plain_init
  have hsome : plainInitSecond.1.isSome = true := by
    decide +kernel
  obtain ⟨second, hsecond⟩ := Option.isSome_iff_exists.mp hsome
  have hrun : plainInitSecond = (some second, plainInitSecond.2) := by rw [← hsecond]
  refine ⟨first, second, by rw [hfirst], hsecond, fun card hdvb => ?_⟩
  have hwired : card.Wired := by
    have hcard := Card.wired_of_init card.regs card.meter hfirst hrun
    rwa [← hdvb] at hcard
  refine (external_adapters_independent hwired).2 _ _ fun handler => ?_
  cases handler <;> rfl

end Saa7231
