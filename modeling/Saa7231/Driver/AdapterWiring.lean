import Saa7231.Driver.Failures

/-!
# The wiring of the adapters

Three numbers have to agree for the interrupt of an adapter to reach it: the port of its stream,
which `saa7231_stream_init` takes from the number of the adapter, its vector, which
`saa7231_dvb_init` takes from its number among the adapters of its type, and the adapter that the
handler of the vector serves. They do for external adapters on a chip without built-in ones. A
built-in adapter gets the `NULL` of `dvbstr_tbl` (`wired_iff`).
-/

namespace Saa7231.Driver

open Interaction Bus Program

/-! ## Wiring -/

/-- The lines of `enum saa7231_irq` by the port of `enum saa7231_stream_port` that they belong
to. -/
def saa7231Irq : List (Nat × Nat) :=
  [(streamPortVs2dAvis, 37), (2, 39), (streamPortDs2dAvis, 41), (streamPortDs2dItu, 42),
    (streamPortAs2dLocal, 43), (7, 44), (streamPortTs2dDtv0, 45), (streamPortTs2dDtv1, 46),
    (streamPortTs2dExtern0, 47), (streamPortTs2dExtern1, 48), (streamPortTs2dCam, 49),
    (streamPortTsoifPc, 66), (14, 67)]

/-- The program of an event handler. -/
def evhandlerProgram : DvbHandler → List Dvb → BoardProgram (List Dvb)
  | .dvbts2d0Evhandler => Saa7231.dvbts2d0Evhandler
  | .dvbts2d1Evhandler => Saa7231.dvbts2d1Evhandler

/-- Adapter `i` is wired: its vector is the line of the port of its stream, and the event of the
vector has a handler, which serves the adapter. -/
structure Wired (dev : Dev) (i : Nat) : Prop where
  line : ∃ stream, (dev.dvb i).stream = some stream ∧
    (stream.portId, (dev.dvb i).vector) ∈ saa7231Irq
  entry : (dev.events.eventHandler (dev.dvb i).vector).vector = (dev.dvb i).vector
  handler : ∃ handler, (dev.events.eventHandler (dev.dvb i).vector).handler = some handler ∧
    evhandlerProgram handler = dvbEvhandler i

/-- All registered adapters are wired, to ports and vectors of their own. -/
structure WiredApart (dev : Dev) : Prop where
  wired : ∀ i < dev.adapters.toNat, Wired dev i
  ports : ∀ i j, i < dev.adapters.toNat → j < dev.adapters.toNat → i ≠ j →
    ∀ stream stream', (dev.dvb i).stream = some stream → (dev.dvb j).stream = some stream' →
      stream.portId ≠ stream'.portId
  vectors : ∀ i j, i < dev.adapters.toNat → j < dev.adapters.toNat → i ≠ j →
    (dev.dvb i).vector ≠ (dev.dvb j).vector

/-! ## What an initialisation leaves -/

/-- The vector of adapter `i`. -/
def vectorOf (config : DvbConfig) (i : Nat) : Nat :=
  (config.adapType i).vector (config.typeNumber i)

/-- The first `n` adapters as the initialisation numbers them. -/
structure Numbered (config : DvbConfig) (dev : Dev) (n : Nat) : Prop where
  bound : n ≤ 2
  stream : ∀ i < n, ∃ stream, (dev.dvb i).stream = some stream ∧ stream.portId = config.port i
  vector : ∀ i < n, (dev.dvb i).vector = vectorOf config i
  event : ∀ i < n, dev.events.eventHandler (vectorOf config i) =
    ⟨vectorOf config i, dvbHandler (vectorOf config i)⟩

theorem ts2dtl_init_port (config : TsConfig) (stream : Stream) (pages : Nat) :
    (ts2dtlInit config stream pages).Yields fun result => result.2.portId = stream.portId := by
  refine yields_bind.mpr (Yields.of_forall fun _ => ?_)
  cases hconfigured : ts2dtlConfigure config stream with
  | none => exact rfl
  | some configured =>
      obtain ⟨_, _, rfl⟩ := ts2dtl_configure_cases config hconfigured
      refine yields_bind.mpr (Yields.of_forall fun array => ?_)
      cases array with
      | none => exact fun _ => rfl
      | some array =>
          refine yields_bind.mpr (Yields.of_forall fun buffers => ?_)
          refine (yields_ite _ _ _).mpr ⟨fun _ _ => rfl, fun _ => ?_⟩
          refine yields_bind.mpr (Yields.of_forall fun ringHandle => ?_)
          cases ringHandle with
          | none => exact fun _ => rfl
          | some ringHandle =>
              refine yields_bind.mpr (init_ptables_yields.mono fun tabled htabled => ?_)
              rw [htabled]
              exact yields_bind.mpr (Yields.of_forall fun _ _ => rfl)

/-- The port of a stream follows the type and the number that it is initialised with. -/
theorem stream_init_port (config : TsConfig) (adapType : AdapterType) (count pages : Nat) :
    (streamInit config .digitalCapture adapType count pages).Yields fun result =>
      ∀ stream, result = some stream → stream.portId = adapType.tsPort count := by
  have hnone : ∀ stream : Stream, none = some stream → stream.portId = adapType.tsPort count :=
    fun stream hstream => absurd hstream (Option.some_ne_none stream).symm
  refine yields_bind.mpr (Yields.of_forall fun handle => ?_)
  cases handle with
  | none => exact hnone
  | some handle =>
      refine (yields_ite _ _ _).mpr ⟨fun _ => hnone, fun _ => yields_bind.mpr ?_⟩
      refine (ts2dtl_init_port _ _ _).mono fun initialised hport => ?_
      refine (yields_ite _ _ _).mpr ⟨fun _ => hnone, fun _ => yields_bind.mpr ?_⟩
      refine acquire_yields.mono fun acquired hacquired => ?_
      refine (yields_ite _ _ _).mpr ⟨fun _ => hnone, fun _ stream hstream => ?_⟩
      rw [← Option.some.inj hstream]
      exact hacquired.portId.trans hport

/-! ## Registering the adapters -/

variable {config : DriverConfig} {dev : Dev}

/-- The vectors of the first two adapters differ. -/
theorem vector_of_injective (config : DvbConfig) {i j : Nat} (hi : i < 2) (hj : j < 2)
    (heq : vectorOf config i = vectorOf config j) : i = j := by
  -- Built-in adapters have the vectors 45 and 46, external ones those from 47 on.
  unfold vectorOf DvbConfig.adapType DvbConfig.typeNumber at heq
  by_cases hib : i < config.builtinAdapters <;> by_cases hjb : j < config.builtinAdapters <;>
    simp only [hib, hjb, if_true, if_false, AdapterType.vector] at heq <;> omega

/-- One more adapter: the iterations before it keep their numbers. -/
theorem Numbered.register {dvbConfig : DvbConfig} {n : Nat} (h : Numbered dvbConfig dev n)
    (hn : n < 2) {dev' : Dev} {stream : Stream} (hstream : (dev'.dvb n).stream = some stream)
    (hport : stream.portId = dvbConfig.port n)
    (hvector : (dev'.dvb n).vector = vectorOf dvbConfig n)
    (hothers : ∀ i < n, dev'.dvb i = dev.dvb i)
    (hevents : ∀ index, dev'.events.eventHandler index =
      if index = vectorOf dvbConfig n then
        ⟨vectorOf dvbConfig n, dvbHandler (vectorOf dvbConfig n)⟩
      else dev.events.eventHandler index) : Numbered dvbConfig dev' (n + 1) := by
  refine ⟨hn, fun i hi => ?_, fun i hi => ?_, fun i hi => ?_⟩
  · cases Nat.lt_succ_iff_lt_or_eq.mp hi with
    | inl hlt =>
        rw [hothers i hlt]
        exact h.stream i hlt
    | inr heq =>
        rw [heq]
        exact ⟨stream, hstream, hport⟩
  · cases Nat.lt_succ_iff_lt_or_eq.mp hi with
    | inl hlt =>
        rw [hothers i hlt]
        exact h.vector i hlt
    | inr heq =>
        rw [heq]
        exact hvector
  · rw [hevents]
    cases Nat.lt_succ_iff_lt_or_eq.mp hi with
    | inl hlt =>
        rw [if_neg fun heq => Nat.ne_of_lt hlt (vector_of_injective _ (by omega) hn heq)]
        exact h.event i hlt
    | inr heq =>
        rw [heq]
        exact if_pos rfl

theorem dvb_register_stream_numbered (dev : Dev) {n : Nat} (hn : n < 2)
    (h : Numbered (config.dvb dev.caps) dev n) :
    (dvbRegisterStream config n dev).Yields fun result => 0 ≤ result.1 →
      Numbered (config.dvb dev.caps) result.2 (n + 1) ∧ result.2.caps = dev.caps ∧
        result.2.adapters = dev.adapters := by
  refine yields_bind.mpr ((lift_board_yields (stream_init_port _ _ _ _)).mono fun found hport => ?_)
  cases found with
  | none => exact fun herr => absurd herr (by simp [enomem])
  | some stream =>
      refine yields_bind.mpr (Yields.of_forall fun _ => ?_)
      refine yields_bind.mpr (Yields.of_forall fun _ => yields_bind.mpr ?_)
      refine (add_irqevent_yields _ _ _ _ _).mono fun added hadded _ => ⟨?_, rfl, rfl⟩
      refine h.register hn (congrArg Dvb.stream (Function.update_self n _ dev.dvb))
        (hport stream rfl) (congrArg Dvb.vector (Function.update_self n _ dev.dvb)) ?_ hadded
      exact fun i hi => Function.update_of_ne (Nat.ne_of_lt hi) _ _

theorem dvb_register_numbered {n : Nat} (h : Numbered (config.dvb dev.caps) dev n) :
    (dvbRegister config n dev).Yields fun result => 0 ≤ result.1 →
      Numbered (config.dvb dev.caps) result.2 (n + 1) ∧ result.2.caps = dev.caps ∧
        result.2.adapters = dev.adapters := by
  -- The third adapter gets no stream, so the hypothesis fails for it.
  by_cases hn : n < 2
  · refine yields_bind.mpr (Yields.of_forall fun ret => ?_)
    refine (yields_ite _ _ _).mpr ⟨fun hret herr => absurd hret (Int.not_lt.mpr herr), fun _ => ?_⟩
    refine yields_bind.mpr (Yields.of_forall fun _ => ?_)
    refine yields_bind.mpr (Yields.of_forall fun registered => ?_)
    refine (yields_ite _ _ _).mpr ⟨fun hret herr => absurd hret (Int.not_lt.mpr herr), fun _ => ?_⟩
    have hkept : ∀ i < n, Function.update dev.dvb n { Dvb.zero with frontend := true } i =
        dev.dvb i := fun i hi => Function.update_of_ne (Nat.ne_of_lt hi) _ _
    let connected : Dev := { dev with
      fe := Function.update dev.fe n registered.2
      dvb := Function.update dev.dvb n { Dvb.zero with frontend := true } }
    have hbefore : Numbered (config.dvb connected.caps) connected n := by
      refine ⟨h.bound, fun i hi => ?_, fun i hi => ?_, h.event⟩
      · obtain ⟨stream, hstream, hport⟩ := h.stream i hi
        exact ⟨stream, (congrArg Dvb.stream (hkept i hi)).trans hstream, hport⟩
      · exact (congrArg Dvb.vector (hkept i hi)).trans (h.vector i hi)
    exact dvb_register_stream_numbered connected hn hbefore
  · refine (dvb_register_fails config (Nat.le_of_not_lt hn) dev).mono fun result hret herr => ?_
    exact absurd hret (Int.not_lt.mpr herr)

theorem dvb_register_all_numbered (k n : Nat) (h : Numbered (config.dvb dev.caps) dev n) :
    (dvbRegisterAll config n k dev).Yields fun result => 0 ≤ result.1 →
      Numbered (config.dvb dev.caps) result.2 (n + k) ∧ result.2.adapters = dev.adapters := by
  induction k generalizing n dev with
  | zero => exact fun _ => ⟨h, rfl⟩
  | succ k ih =>
      refine yields_bind.mpr ((dvb_register_numbered h).mono fun result hresult => ?_)
      refine (yields_ite _ _ _).mpr
        ⟨fun hret herr => absurd hret (Int.not_lt.mpr herr), fun hret => ?_⟩
      obtain ⟨hnumbered, hcaps, hadapters⟩ := hresult (Int.not_lt.mp hret)
      rw [← hcaps] at hnumbered
      refine (ih (n + 1) hnumbered).mono fun registered hregistered herr => ?_
      obtain ⟨hall, hkept⟩ := hregistered herr
      rw [hcaps, Nat.add_right_comm, Nat.add_assoc] at hall
      exact ⟨hall, hkept.trans hadapters⟩

/-- A successful initialisation numbers all adapters. -/
theorem dvb_init_numbered (config : DriverConfig) (dev : Dev) :
    (dvbInit config dev).Yields fun result => result.1 = 0 →
      Numbered (config.dvb dev.caps) result.2 (config.adapters dev.caps).toNat ∧
        result.2.adapters = config.adapters dev.caps := by
  have hnone : Numbered (config.dvb dev.caps)
      { dev with adapters := config.adapters dev.caps } 0 :=
    ⟨Nat.zero_le 2, fun i hi => absurd hi (Nat.not_lt_zero i),
      fun i hi => absurd hi (Nat.not_lt_zero i), fun i hi => absurd hi (Nat.not_lt_zero i)⟩
  have hall : (dvbRegisterAll config 0 (config.adapters dev.caps).toNat
      { dev with adapters := config.adapters dev.caps }).Yields fun result => result.1 = 0 →
        Numbered (config.dvb dev.caps) result.2 (config.adapters dev.caps).toNat ∧
          result.2.adapters = config.adapters dev.caps := by
    refine (dvb_register_all_numbered _ 0 hnone).mono fun result hresult herr => ?_
    have hnumbered := hresult (le_of_eq herr.symm)
    rwa [Nat.zero_add] at hnumbered
  refine yields_bind.mpr (Yields.of_forall fun granted => ?_)
  refine (yields_ite _ _ _).mpr ⟨fun _ herr => absurd herr (by simp [enomem]), fun _ => ?_⟩
  cases henable : config.frontendEnable with
  | false => simpa [henable] using hall
  | true =>
      simp only [if_true]
      exact yields_bind.mpr (Yields.of_forall fun _ => hall)

/-! ## Which adapters are wired -/

/-- An external adapter on a chip without built-in ones. -/
theorem Numbered.wired {dvbConfig : DvbConfig} {n i : Nat} (h : Numbered dvbConfig dev n)
    (hi : i < n) (hbuiltin : dvbConfig.builtinAdapters = 0) : Wired dev i := by
  have htwo : i < 2 := Nat.lt_of_lt_of_le hi h.bound
  have hvector : vectorOf dvbConfig i = 47 + i := by
    simp [vectorOf, DvbConfig.adapType, DvbConfig.typeNumber, hbuiltin, AdapterType.vector]
  have hport : dvbConfig.port i = streamPortTs2dExtern0 + i := by
    simp [DvbConfig.port, DvbConfig.adapType, hbuiltin, AdapterType.tsPort]
  obtain ⟨stream, hstream, hstreamPort⟩ := h.stream i hi
  have hevent := h.event i hi
  refine ⟨⟨stream, hstream, ?_⟩, ?_, ?_⟩
  · rw [hstreamPort, h.vector i hi, hport, hvector]
    interval_cases i <;> decide
  · rw [h.vector i hi, hevent]
  · rw [h.vector i hi, hevent, hvector]
    interval_cases i
    · exact ⟨.dvbts2d0Evhandler, rfl, rfl⟩
    · exact ⟨.dvbts2d1Evhandler, rfl, rfl⟩

theorem Numbered.apart {dvbConfig : DvbConfig} {n i j : Nat} (h : Numbered dvbConfig dev n)
    (hi : i < n) (hj : j < n) (hne : i ≠ j) : (dev.dvb i).vector ≠ (dev.dvb j).vector := by
  rw [h.vector i hi, h.vector j hj]
  have hbound := h.bound
  exact fun heq => hne (vector_of_injective dvbConfig (by omega) (by omega) heq)

theorem Numbered.ports_apart {dvbConfig : DvbConfig} {n i j : Nat} (h : Numbered dvbConfig dev n)
    (hi : i < n) (hj : j < n) (hne : i ≠ j) {stream stream' : Stream}
    (hstream : (dev.dvb i).stream = some stream) (hstream' : (dev.dvb j).stream = some stream') :
    stream.portId ≠ stream'.portId := by
  have hbound := h.bound
  obtain ⟨found, hfound, hport⟩ := h.stream i hi
  obtain ⟨found', hfound', hport'⟩ := h.stream j hj
  rw [← Option.some.inj (hfound.symm.trans hstream),
    ← Option.some.inj (hfound'.symm.trans hstream'), hport, hport']
  unfold DvbConfig.port DvbConfig.adapType
  split_ifs <;> simp only [AdapterType.tsPort, streamPortTs2dDtv0, streamPortTs2dExtern0] <;> omega

/-- A built-in adapter has no handler. -/
theorem Numbered.not_wired {dvbConfig : DvbConfig} {n : Nat} (h : Numbered dvbConfig dev n)
    (hn : 0 < n) (hbuiltin : 0 < dvbConfig.builtinAdapters) : ¬ Wired dev 0 := by
  intro hwired
  have hvector : vectorOf dvbConfig 0 = 45 := by
    simp [vectorOf, DvbConfig.adapType, DvbConfig.typeNumber, hbuiltin, AdapterType.vector]
  obtain ⟨handler, hhandler, _⟩ := hwired.handler
  rw [h.vector 0 hn, h.event 0 hn, hvector] at hhandler
  exact absurd hhandler (Option.some_ne_none handler).symm

/-- Without built-in adapters all registered ones are wired, and none is without any. -/
theorem Numbered.wired_apart {dvbConfig : DvbConfig} (h : Numbered dvbConfig dev dev.adapters.toNat)
    (hnone : dvbConfig.builtinAdapters = 0 ∨ dev.adapters.toNat = 0) : WiredApart dev := by
  refine ⟨fun i hi => ?_, fun i j hi hj hne stream stream' hstream hstream' => ?_,
    fun i j hi hj hne => h.apart hi hj hne⟩
  · cases hnone with
    | inl hbuiltin => exact h.wired hi hbuiltin
    | inr hzero => exact absurd hi (by omega)
  · exact h.ports_apart hi hj hne hstream hstream'

/-- After a successful initialisation the adapters are wired consistently exactly when none is built
in, or when there is none at all. -/
theorem wired_iff (config : DriverConfig) (dev : Dev) :
    (dvbInit config dev).Yields fun result => result.1 = 0 →
      (WiredApart result.2 ↔
        (config.dvb dev.caps).builtinAdapters = 0 ∨ (config.adapters dev.caps).toNat = 0) := by
  refine (dvb_init_numbered config dev).mono fun result hresult herr => ?_
  obtain ⟨hnumbered, hadapters⟩ := hresult herr
  constructor
  · intro h
    by_contra hneither
    rw [not_or] at hneither
    have hsome := Nat.pos_of_ne_zero hneither.2
    refine hnumbered.not_wired hsome (Nat.pos_of_ne_zero hneither.1) (h.wired 0 ?_)
    rw [hadapters]
    exact hsome
  · intro hnone
    rw [← hadapters] at hnumbered hnone
    exact hnumbered.wired_apart hnone

/-- A configuration with two external adapters. -/
def externalConfig : DriverConfig := { DriverConfig.plain with extDvbAdapters := 2 }

/-- The initialisation of a chip on a board where every request is granted succeeds. -/
theorem dvb_initialised {config : DriverConfig} {dev : Dev}
    (hret : ((dvbInit config dev).run
      (driverWorld { DriverEnvironment.plain with board := .plain }) Board.reset).1.1 = 0) :
    ∃ steps dev', Produces (dvbInit config dev) steps (0, dev') := by
  have hproduces := produces_run_pair
    (driverWorld { DriverEnvironment.plain with board := .plain }) (dvbInit config dev)
    Board.reset
  rw [hret] at hproduces
  exact ⟨_, _, hproduces⟩

/-- On a chip without built-in adapters both external ones are wired. -/
theorem external_adapters_wired : ∃ steps dev,
    Produces (dvbInit externalConfig Dev.zero) steps (0, dev) ∧ dev.adapters = 2 ∧
      WiredApart dev := by
  obtain ⟨steps, dev, hsteps⟩ := @dvb_initialised externalConfig Dev.zero (by decide +kernel)
  obtain ⟨_, hadapters⟩ := (dvb_init_numbered externalConfig Dev.zero).produces hsteps rfl
  have hwired := (wired_iff externalConfig Dev.zero).produces hsteps rfl
  exact ⟨steps, dev, hsteps, hadapters.trans (by decide), hwired.mpr (Or.inl rfl)⟩

/-- A chip with a built-in DVB-T adapter. -/
def dvbtDev : Dev := { Dev.zero with caps := ⟨false, true⟩ }

/-- Its adapter is left without a handler. -/
theorem dvbt_adapter_not_wired : ∃ steps dev,
    Produces (dvbInit .plain dvbtDev) steps (0, dev) ∧ ¬ WiredApart dev := by
  obtain ⟨steps, dev, hsteps⟩ := @dvb_initialised .plain dvbtDev (by decide +kernel)
  obtain ⟨hnumbered, hadapters⟩ := (dvb_init_numbered .plain dvbtDev).produces hsteps rfl
  have hone : (DriverConfig.plain.adapters dvbtDev.caps).toNat = 1 := by decide
  refine ⟨steps, dev, hsteps, fun hwired => ?_⟩
  refine hnumbered.not_wired (by rw [hone]; decide) (by decide) (hwired.wired 0 ?_)
  rw [hadapters, hone]
  decide

end Saa7231.Driver
