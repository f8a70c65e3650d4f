import Saa7231.Cgu.OutputSafety
import Saa7231.Driver.Gpio
import Saa7231.Interaction.Threads
import Saa7231.Lgs8gxx.AutoDetect

/-!
# The frontends of several cards (`saa7231_drv.c`)

An A328 wraps two functions of its frontend: the tuning of the demodulator, to switch the clocks on
before it, and the one of the tuner, to replace DTMB by DVB-T and to wake the tuner up after it. The
wrapped functions and the configuration of the demodulator are static variables that all cards
share, and the wrappers find their card through the frontend. `tunes_independent` says that the
cards can be tuned at once after any history of them, and `tune_order` what one tuning does.
-/

namespace Saa7231

open Interaction

/-! ## Operations -/

/-- What attaching and tuning perform on one card. -/
inductive CardOp where
  /-- What the demodulator's driver does, with transfers on the first bus. -/
  | demod (op : LgsOp)
  | board (op : BusOp BoardOp)
  /-- `i2c_transfer` on the third bus, the tuner's. -/
  | tunerTransfer (msgs : List I2cMsg)
  | kzalloc
  | kfree
  /-- `tda18271_attach`; the answer says whether it set `set_params`, unless it failed. -/
  | tda18271Attach
  /-- The tuner's own `set_params`. -/
  | tda18271SetParams (params : DtvFrontendProperties)
  /-- A call of a function that is not there, or of one in itself without end. -/
  | oops

def CardAns : CardOp → Type
  | .demod op => LgsAns op
  | .board op => BusAns BoardAns op
  | .tunerTransfer _ => Int × List I2cMsg
  | .kzalloc => Bool
  | .tda18271Attach => Option Bool
  | .tda18271SetParams _ => Int
  | .kfree | .oops => Unit

/-- The programs on one card, and those on all cards. -/
abbrev CardProgram : Type → Type := Program CardOp CardAns

abbrev CardsProgram : Type → Type := Program (Nat × CardOp) (ComponentAns Nat CardAns)

namespace CardProgram

def tunerTransfer (msgs : List I2cMsg) : CardProgram (Int × List I2cMsg) :=
  Program.perform (CardOp.tunerTransfer msgs)
def kzalloc : CardProgram Bool := Program.perform CardOp.kzalloc
def kfree : CardProgram Unit := Program.perform CardOp.kfree
def tda18271Attach : CardProgram (Option Bool) := Program.perform CardOp.tda18271Attach
def tda18271SetParams (params : DtvFrontendProperties) : CardProgram Int :=
  Program.perform (CardOp.tda18271SetParams params)
def oops : CardProgram Unit := Program.perform CardOp.oops

end CardProgram

section Layers

variable {α : Type}

/-- The demodulator's driver on a card. -/
def cardDemod (program : LgsProgram α) : CardProgram α :=
  program.relabel CardOp.demod fun _ reply => reply

/-- Register accesses on a card. -/
def cardBoard (program : BoardProgram α) : CardProgram α :=
  program.relabel CardOp.board fun _ reply => reply

/-- A program on the card of that number. -/
def onCard (card : Nat) (program : CardProgram α) : CardsProgram α :=
  program.relabel (fun op => (card, op)) fun _ reply => reply

/-- The frontend of the demodulator's driver over all cards; the demodulator is on that card. -/
def onCards (card : Nat) (program : FeProgram (ComponentAns Nat CardAns) α) : CardsProgram α :=
  program.relabel (fun op => op.elim (fun op => (card, .demod op)) id) fun
    | .inl _, reply => reply
    | .inr _, reply => reply

end Layers

/-! ## Frontends -/

/-- What `set_frontend` of a frontend can point to. -/
inductive SetFrontend where
  | lgs8gxxSetFe
  | a328SetFrontend

/-- What `set_params` of a tuner can point to. -/
inductive SetParams where
  | tda18271SetParams
  | a328TunerSetParams

/-- `struct dvb_frontend` with the state of its demodulator. A pointer to an adapter is the card of
the adapter. -/
structure CardFrontend where
  /-- `fe->dvb`. -/
  dvb : Option Nat
  /-- The adapter that `lgs8gxx_attach` was called with. -/
  demodCard : Nat
  /-- The adapter that `tda18271_attach` was called with. -/
  tunerCard : Nat
  setFrontend : Option SetFrontend
  setParams : Option SetParams
  currGi : BitVec 16
  /-- `dtv_property_cache`. -/
  cache : DtvFrontendProperties

/-- The module parameters of the A328. -/
structure A328Params where
  ifClk : BitVec 32
  ifNegCenter : BitVec 32
  ifNegEdge : BitVec 32
  adcSigned : BitVec 32
  adcVpp : BitVec 32
  gpioReset : BitVec 32

/-- Their initial values. -/
def A328Params.default : A328Params := ⟨13040, 0, 1, 1, 3, 0⟩

/-- The static variables that all cards share. -/
structure A328Globals where
  tunerSetParamsOrig : Option SetParams
  setFrontendOrig : Option SetFrontend
  lgs8g75Config : Lgs8gxxConfig

/-- The configuration of the demodulator with the parameters, as an attach stores it. -/
def A328Params.configure (params : A328Params) (config : Lgs8gxxConfig) : Lgs8gxxConfig :=
  { config with
    ifClkFreq := params.ifClk
    ifNegCenter := params.ifNegCenter.setWidth 8
    ifNegEdge := params.ifNegEdge.setWidth 8
    adcSigned := params.adcSigned.setWidth 8
    adcVpp := params.adcVpp.setWidth 8 }

/-! ## Attaching -/

/-- Properties that are all zero. -/
def DtvFrontendProperties.zero : DtvFrontendProperties where
  deliverySystem := .other 0
  bandwidthHz := 0
  codeRateHP := .other 0
  codeRateLP := .other 0
  modulation := .other 0
  transmissionMode := .other 0
  guardInterval := .other 0
  hierarchy := .hierarchyNone

/-- `lgs8gxx_attach`: whether it returned a frontend. -/
def lgs8gxxAttach (config : Lgs8gxxConfig) : CardProgram Bool := do
  if ← CardProgram.kzalloc then
    let (ret, data) ← cardDemod (lgs8gxxReadReg config 0 0)
    if ret ≠ 0 then
      CardProgram.kfree
      return false
    else
      let _data ← cardDemod (lgs8gxxReadReg config 1 data)
      return true
  else
    CardProgram.kfree
    return false

/-- The frontend of `lgs8gxx_attach` on a card. -/
def CardFrontend.fresh (card : Nat) : CardFrontend where
  dvb := none
  demodCard := card
  tunerCard := card
  setFrontend := some .lgs8gxxSetFe
  setParams := none
  currGi := 0
  cache := .zero

/-- The end of `saa7231_frontend_attach`, which puts the wrappers in place. `hasParams` says whether
the tuner set `set_params`. -/
def wrapFrontend (globals : A328Globals) (fe : CardFrontend) (hasParams : Bool) :
    A328Globals × CardFrontend :=
  let setParams := if hasParams then some SetParams.tda18271SetParams else none
  ({ globals with
      tunerSetParamsOrig := setParams.or globals.tunerSetParamsOrig
      setFrontendOrig := fe.setFrontend.or globals.setFrontendOrig },
    { fe with
      setParams := setParams.map fun _ => .a328TunerSetParams
      setFrontend := fe.setFrontend.map fun _ => .a328SetFrontend })

/-- `saa7231_frontend_attach` for a frontend of a card: the result, and `dvb->fe`. -/
def saa7231FrontendAttach (params : A328Params) (globals : A328Globals) (subsystem : BitVec 32)
    (card frontend : Nat) : CardsProgram (Int × A328Globals × Option CardFrontend) := do
  if subsystem ≠ avermediaA328 ∨ frontend ≠ 0 then
    return (0, globals, none)
  else
    onCard card (cardBoard (resetLgs8g75 params.gpioReset))
    let config := params.configure globals.lgs8g75Config
    let globals := { globals with lgs8g75Config := config }
    if ← onCard card (lgs8gxxAttach config) then
      match ← onCard card CardProgram.tda18271Attach with
      | none => return (-enodev, globals, some (.fresh card))
      | some hasParams =>
          let (globals, fe) := wrapFrontend globals (.fresh card) hasParams
          return (0, globals, some fe)
    else
      return (-enodev, globals, none)

/-! ## Tuning -/

/-- `a328_fe_to_dev`. -/
def a328FeToDev (fe : CardFrontend) : Option Nat := fe.dvb

/-- The clocks of the frontend's card: `a328_mscd_clk_on`, which does nothing without a device. -/
def feMscdClkOn (fe : CardFrontend) : CardsProgram Unit :=
  match a328FeToDev fe with
  | none => pure ()
  | some card => onCard card (cardBoard a328MscdClkOn)

/-- The parameters that `a328_tuner_set_params` tunes with. -/
def a328TunerParams (c : DtvFrontendProperties) : DtvFrontendProperties :=
  if c.deliverySystem = .sysDtmb then { c with deliverySystem := .sysDvbt, bandwidthHz := 8000000 }
  else c

/-- The messages that read the tuner's register of the standby bit, and the one that writes it. -/
def standbyRead : List I2cMsg := [⟨0x60, 0, [0x01]⟩, ⟨0x60, i2cMRd, [0xff]⟩]

def standbyWrite (val : BitVec 8) : I2cMsg := ⟨0x60, 0, [0x01, val &&& ~~~0x20]⟩

/-- The end of `a328_tuner_set_params`: clears the standby bit of the tuner. -/
def clearStandby : CardProgram Unit := do
  let (ret, msgs) ← CardProgram.tunerTransfer standbyRead
  if ret = 2 then
    let _ret ← CardProgram.tunerTransfer [standbyWrite (readByte msgs)]
    return ()
  else
    return ()

def feClearStandby (fe : CardFrontend) : CardsProgram Unit :=
  match a328FeToDev fe with
  | none => pure ()
  | some card => onCard card clearStandby

/-- A call of a `set_params` of the frontend, where wrappers can be nested that often. The values
are the result and the properties. -/
def callSetParams (globals : A328Globals) (fe : CardFrontend) :
    Nat → SetParams → DtvFrontendProperties → CardsProgram (Int × DtvFrontendProperties)
  | _, .tda18271SetParams, params => do
      let result ← onCard fe.tunerCard (CardProgram.tda18271SetParams params)
      return (result, params)
  | 0, .a328TunerSetParams, params => do
      onCard fe.demodCard CardProgram.oops
      return (0, params)
  | depth + 1, .a328TunerSetParams, params => do
      let params := a328TunerParams params
      match globals.tunerSetParamsOrig with
      | none =>
          onCard fe.demodCard CardProgram.oops
          return (0, params)
      | some orig =>
          let (result, params) ← callSetParams globals fe depth orig params
          if result = 0 then
            feClearStandby fe
            return (result, params)
          else
            return (result, params)

/-- What a tuning returns: the result, `curr_gi` and the properties. -/
abbrev TuneResult : Type := Int × BitVec 16 × DtvFrontendProperties

/-- A call of a `set_frontend` of the frontend. The card has no tuner behind a gate. -/
def callSetFrontend (globals : A328Globals) (fe : CardFrontend) (stack : LockStack) :
    Nat → SetFrontend → CardsProgram TuneResult
  | depth, .lgs8gxxSetFe =>
      onCards fe.demodCard (lgs8gxxSetFe globals.lgs8g75Config 0 stack
        (fe.setParams.map fun setParams params =>
          (callSetParams globals fe depth setParams params).relabel Sum.inr fun _ reply => reply)
        fe.cache)
  | 0, .a328SetFrontend => do
      onCard fe.demodCard CardProgram.oops
      return (0, fe.currGi, fe.cache)
  | depth + 1, .a328SetFrontend => do
      feMscdClkOn fe
      match globals.setFrontendOrig with
      | none => return (0, fe.currGi, fe.cache)
      | some orig => callSetFrontend globals fe stack depth orig

/-- `fe->ops.set_frontend(fe)`. -/
def tuneFrontend (globals : A328Globals) (fe : CardFrontend) (stack : LockStack) (depth : Nat) :
    CardsProgram TuneResult :=
  match fe.setFrontend with
  | none => do
      onCard fe.demodCard CardProgram.oops
      return (0, fe.currGi, fe.cache)
  | some setFrontend => callSetFrontend globals fe stack depth setFrontend

/-! ## Histories -/

/-- The state that the cards share, and the first frontend of each. -/
structure CardSystem where
  params : A328Params
  globals : A328Globals
  fe : Nat → Option CardFrontend

/-- After the module was loaded. -/
def CardSystem.loaded (params : A328Params) : CardSystem :=
  ⟨params, ⟨none, none, a328Lgs8g75Config⟩, fun _ => none⟩

/-- What happens to the cards. -/
inductive A328Event where
  /-- The module parameters are written. -/
  | setParams (params : A328Params)
  | attach (subsystem : BitVec 32) (card frontend : Nat)
  /-- `dvb_register_frontend`. -/
  | register (card : Nat)
  /-- An application stores the properties of a channel. -/
  | setCache (card : Nat) (cache : DtvFrontendProperties)
  | tune (card : Nat) (stack : LockStack)
  /-- `dvb_frontend_detach`. -/
  | detach (card : Nat)

/-- Changes the frontend of a card, if there is one. -/
def CardSystem.modify (system : CardSystem) (card : Nat) (f : CardFrontend → CardFrontend) :
    CardSystem :=
  { system with fe := Function.update system.fe card ((system.fe card).map f) }

/-- The frontend of a card after a tuning. -/
def CardFrontend.tuned (fe : CardFrontend) (result : TuneResult) : CardFrontend :=
  { fe with currGi := result.2.1, cache := result.2.2 }

/-- A tuning of the card's frontend, if there is one. -/
def CardSystem.tune (system : CardSystem) (depth card : Nat) (stack : LockStack) :
    CardsProgram CardSystem :=
  match system.fe card with
  | none => return system
  | some fe => do
      let result ← tuneFrontend system.globals fe stack depth
      return system.modify card fun fe => fe.tuned result

/-- What an event does, where wrappers can be nested that often. -/
def A328Event.program (depth : Nat) (system : CardSystem) : A328Event → CardsProgram CardSystem
  | .setParams params => return { system with params }
  | .attach subsystem card frontend => do
      let (_ret, globals, fe) ←
        saa7231FrontendAttach system.params system.globals subsystem card frontend
      return { system with globals, fe := Function.update system.fe card (fe.or (system.fe card)) }
  | .register card => return system.modify card fun fe => { fe with dvb := some card }
  | .setCache card cache => return system.modify card fun fe => { fe with cache }
  | .tune card stack => system.tune depth card stack
  | .detach card => return { system with fe := Function.update system.fe card none }

/-! ## What the wrappers rely on -/

open Program

/-- The frontend belongs to the card, and the functions behind its wrappers are the drivers' own. -/
structure FeWired (globals : A328Globals) (card : Nat) (fe : CardFrontend) : Prop where
  dvb : ∀ other ∈ fe.dvb, other = card
  demodCard : fe.demodCard = card
  tunerCard : fe.tunerCard = card
  setParams : fe.setParams = some .a328TunerSetParams →
    globals.tunerSetParamsOrig = some .tda18271SetParams
  setFrontend : fe.setFrontend = some .a328SetFrontend →
    globals.setFrontendOrig = some .lgs8gxxSetFe
  tunes : fe.setFrontend ≠ none

def CardSystem.Wired (system : CardSystem) : Prop :=
  ∀ card, ∀ fe ∈ system.fe card, FeWired system.globals card fe

/-- The wrapped functions stay what they are. -/
structure A328Globals.Keeps (globals globals' : A328Globals) : Prop where
  tunerSetParamsOrig : globals.tunerSetParamsOrig = some .tda18271SetParams →
    globals'.tunerSetParamsOrig = some .tda18271SetParams
  setFrontendOrig : globals.setFrontendOrig = some .lgs8gxxSetFe →
    globals'.setFrontendOrig = some .lgs8gxxSetFe

section Wired

variable {globals globals' : A328Globals} {card frontend depth : Nat} {fe : CardFrontend}
  {system : CardSystem}

/-- A frontend stays wired while the globals keep what was assigned. -/
theorem FeWired.mono (h : FeWired globals card fe) (hkeeps : globals.Keeps globals') :
    FeWired globals' card fe :=
  ⟨h.dvb, h.demodCard, h.tunerCard, fun heq => hkeeps.tunerSetParamsOrig (h.setParams heq),
    fun heq => hkeeps.setFrontendOrig (h.setFrontend heq), h.tunes⟩

/-- A frontend without wrappers. -/
theorem fresh_wired (globals : A328Globals) (card : Nat) :
    FeWired globals card (.fresh card) where
  dvb other hother := absurd hother (Option.not_mem_none other)
  demodCard := rfl
  tunerCard := rfl
  setParams heq := by cases heq
  setFrontend heq := by cases heq
  tunes heq := by cases heq

/-- The wrappers are put in place together with what they wrap. -/
theorem wrap_frontend_wired (globals : A328Globals) (card : Nat) (hasParams : Bool) :
    globals.Keeps (wrapFrontend globals (.fresh card) hasParams).1 ∧
      FeWired (wrapFrontend globals (.fresh card) hasParams).1 card
        (wrapFrontend globals (.fresh card) hasParams).2 := by
  have hfe : (wrapFrontend globals (.fresh card) hasParams).1.setFrontendOrig =
      some .lgs8gxxSetFe := rfl
  cases hasParams with
  | true =>
      exact ⟨⟨fun _ => rfl, fun _ => hfe⟩,
        fun other hother => absurd hother (Option.not_mem_none other), rfl, rfl, fun _ => rfl,
        fun _ => hfe, fun heq => by cases heq⟩
  | false =>
      exact ⟨⟨fun horig => horig, fun _ => hfe⟩,
        fun other hother => absurd hother (Option.not_mem_none other), rfl, rfl,
        fun heq => absurd heq (Option.some_ne_none _).symm, fun _ => hfe, fun heq => by cases heq⟩

/-- What an attach gives: wrapped functions that stay what they are, and a frontend of the card. -/
structure Attached (globals : A328Globals) (card : Nat)
    (result : Int × A328Globals × Option CardFrontend) : Prop where
  keeps : globals.Keeps result.2.1
  wired : ∀ fe ∈ result.2.2, FeWired result.2.1 card fe

/-- What the attachment of a card leaves in the globals. -/
theorem frontend_attach_yields (params : A328Params) (globals : A328Globals)
    (subsystem : BitVec 32) (card frontend : Nat) :
    (saa7231FrontendAttach params globals subsystem card frontend).Yields
      (Attached globals card) := by
  have hnone (config : Lgs8gxxConfig) (ret : Int) :
      Attached globals card (ret, { globals with lgs8g75Config := config }, none) :=
    ⟨⟨fun h => h, fun h => h⟩, fun fe hfe => absurd hfe (Option.not_mem_none fe)⟩
  unfold saa7231FrontendAttach
  split
  next => exact hnone globals.lgs8g75Config 0
  next =>
    refine yields_bind.mpr (Yields.of_forall fun _ => ?_)
    refine yields_bind.mpr (Yields.of_forall fun found => ?_)
    split
    next =>
      refine yields_bind.mpr (Yields.of_forall fun tuner => ?_)
      cases tuner with
      | none =>
          refine ⟨⟨fun h => h, fun h => h⟩, fun fe hfe => ?_⟩
          obtain rfl := Option.mem_some.mp hfe
          exact fresh_wired _ card
      | some hasParams =>
          obtain ⟨hkeeps, hwired⟩ := wrap_frontend_wired
            { globals with lgs8g75Config := params.configure globals.lgs8g75Config } card hasParams
          refine ⟨⟨hkeeps.tunerSetParamsOrig, hkeeps.setFrontendOrig⟩, fun fe hfe => ?_⟩
          obtain rfl := Option.mem_some.mp hfe
          exact hwired
    next => exact hnone _ _

/-- A change that keeps a frontend wired keeps the system wired. -/
theorem CardSystem.Wired.modify (h : system.Wired) {f : CardFrontend → CardFrontend}
    (hf : ∀ fe, FeWired system.globals card fe → FeWired system.globals card (f fe)) :
    (system.modify card f).Wired := by
  intro other fe hfe
  replace hfe : fe ∈ Function.update system.fe card ((system.fe card).map f) other := hfe
  rw [Function.update_apply] at hfe
  split at hfe
  next hother =>
    subst hother
    obtain ⟨before, hbefore, rfl⟩ := Option.mem_map.mp hfe
    exact hf before (h other before hbefore)
  next => exact h other fe hfe

/-- No event makes a wrapper wrap itself or another card's frontend. -/
theorem event_wired (h : system.Wired) (depth : Nat) (event : A328Event) :
    (event.program depth system).Yields CardSystem.Wired := by
  cases event with
  | setParams params => exact h
  | attach subsystem card frontend =>
      refine yields_bind.mpr ((frontend_attach_yields _ _ _ _ _).mono fun result hattached => ?_)
      obtain ⟨ret, globals, found⟩ := result
      intro other fe hfe
      replace hfe : fe ∈ Function.update system.fe card (found.or (system.fe card)) other := hfe
      rw [Function.update_apply] at hfe
      split at hfe
      next hother =>
        subst hother
        cases found with
        | none => exact (h other fe hfe).mono hattached.keeps
        | some attached => exact hattached.wired fe hfe
      next => exact (h other fe hfe).mono hattached.keeps
  | register card =>
      refine h.modify fun fe hwired => { hwired with dvb := fun other hother => ?_ }
      exact (Option.mem_some.mp hother).symm
  | setCache card cache => exact h.modify fun fe hwired => { hwired with }
  | tune card stack =>
      show (system.tune depth card stack).Yields _
      unfold CardSystem.tune
      split
      next => exact h
      next =>
        exact yields_bind.mpr (Yields.of_forall fun result =>
          h.modify fun fe hwired => { hwired with })
  | detach card =>
      intro other fe hfe
      replace hfe : fe ∈ Function.update system.fe card none other := hfe
      rw [Function.update_apply] at hfe
      split at hfe
      next => exact absurd hfe (Option.not_mem_none fe)
      next => exact h other fe hfe

end Wired

/-! ## One tuning -/

/-- An operation on the card, and none that ends in an oops. -/
def SafeOn (card : Nat) (op : Nat × CardOp) : Prop := op.1 = card ∧ op.2 ≠ .oops

section Safe

variable {globals : A328Globals} {card : Nat} {fe : CardFrontend} {α : Type}

/-- A program without a crash stays safe on its card. -/
theorem on_card_safe {program : CardProgram α} (h : program.Only fun op => op ≠ .oops) :
    (onCard card program).Only (SafeOn card) :=
  h.relabel fun _ hop => ⟨rfl, hop⟩

/-- The streaming code cannot crash here. -/
theorem card_board_safe (program : BoardProgram α) :
    (cardBoard program).Only fun op => op ≠ .oops :=
  (Only.of_forall fun _ => trivial : program.Only fun _ => True).relabel fun _ _ heq =>
    CardOp.noConfusion heq

/-- The operations of a frontend, where those beside the demodulator are safe. -/
def FeSafe (card : Nat) : LgsOp ⊕ (Nat × CardOp) → Prop
  | .inl _ => True
  | .inr op => SafeOn card op

/-- A safe program of the frontend stays safe among the cards. -/
theorem on_cards_safe {program : FeProgram (ComponentAns Nat CardAns) α}
    (h : program.Only (FeSafe card)) : (onCards card program).Only (SafeOn card) := by
  refine h.relabel fun op hop => ?_
  cases op with
  | inl op => exact ⟨rfl, fun heq => CardOp.noConfusion heq⟩
  | inr op => exact hop

/-- The standby bit is cleared without a crash. -/
theorem clear_standby_safe : clearStandby.Only fun op => op ≠ .oops := by
  refine ⟨fun heq => CardOp.noConfusion heq, fun read => ?_⟩
  show (if read.1 = 2 then _ else _ : CardProgram Unit).Only _
  split
  next => exact ⟨fun heq => CardOp.noConfusion heq, fun _ => trivial⟩
  next => trivial

/-- A wired frontend clears it on its own card. -/
theorem fe_clear_standby_safe (h : FeWired globals card fe) :
    (feClearStandby fe).Only (SafeOn card) := by
  unfold feClearStandby
  split
  next => exact only_pure ()
  next other hother =>
    rw [h.dvb other hother]
    exact on_card_safe clear_standby_safe

/-- So it switches the clock on. -/
theorem fe_mscd_clk_on_safe (h : FeWired globals card fe) :
    (feMscdClkOn fe).Only (SafeOn card) := by
  unfold feMscdClkOn
  split
  next => exact only_pure ()
  next other hother =>
    rw [h.dvb other hother]
    exact on_card_safe (card_board_safe _)

/-- A call of the tuner's own function. -/
theorem tda18271_safe (h : FeWired globals card fe) (depth : Nat) (params : DtvFrontendProperties) :
    (callSetParams globals fe depth .tda18271SetParams params).Only (SafeOn card) := by
  have hcall : (CardProgram.tda18271SetParams params).Only fun op => op ≠ .oops :=
    ⟨fun heq => CardOp.noConfusion heq, fun _ => trivial⟩
  have hsafe : (onCard card (CardProgram.tda18271SetParams params)).Only (SafeOn card) :=
    on_card_safe hcall
  unfold callSetParams
  rw [h.tunerCard]
  exact Only.bind hsafe fun _ => only_pure _

/-- One nested wrapper is enough for the tuner. -/
theorem call_set_params_safe (h : FeWired globals card fe) (depth : Nat) {f : SetParams}
    (hf : f ∈ fe.setParams) (params : DtvFrontendProperties) :
    (callSetParams globals fe (depth + 1) f params).Only (SafeOn card) := by
  cases f with
  | tda18271SetParams => exact tda18271_safe h _ _
  | a328TunerSetParams =>
      unfold callSetParams
      dsimp only
      rw [h.setParams hf]
      refine Only.bind (tda18271_safe h _ _) fun result => ?_
      split
      next => exact Only.bind (fe_clear_standby_safe h) fun _ => only_pure _
      next => exact only_pure _

/-- The tuning of the demodulator, with a safe `set_params`. -/
theorem set_fe_safe {config : Lgs8gxxConfig} {tunerAddress : BitVec 8} {stack : LockStack}
    {setParams : Option (DtvFrontendProperties →
      FeProgram (ComponentAns Nat CardAns) (Int × DtvFrontendProperties))}
    {params : DtvFrontendProperties}
    (h : ∀ call ∈ setParams, ∀ params, (call params).Only (FeSafe card)) :
    (lgs8gxxSetFe config tunerAddress stack setParams params).Only (FeSafe card) := by
  have hdemod {β : Type} (program : LgsProgram β) :
      (demod program : FeProgram (ComponentAns Nat CardAns) β).Only (FeSafe card) :=
    (Only.of_forall fun _ => trivial : program.Only fun _ => True).relabel fun _ _ => trivial
  have htuner : (tuneTuner config tunerAddress setParams params :
      FeProgram (ComponentAns Nat CardAns) _).Only (FeSafe card) := by
    unfold tuneTuner
    split
    next => exact only_pure _
    next call =>
      refine Only.bind (h call rfl params) fun _ => ?_
      refine Only.bind (hdemod _) fun _ => ?_
      exact only_pure _
  refine Only.bind htuner fun _ => ?_
  refine Only.bind (hdemod _) fun _ => ?_
  refine Only.bind (hdemod _) fun _ => ?_
  exact only_pure _

/-- The demodulator's own `set_frontend`. -/
theorem call_set_fe_safe (h : FeWired globals card fe) (stack : LockStack) (depth : Nat) :
    (callSetFrontend globals fe stack (depth + 1) .lgs8gxxSetFe).Only (SafeOn card) := by
  unfold callSetFrontend
  rw [h.demodCard]
  refine on_cards_safe (set_fe_safe fun call hcall params => ?_)
  obtain ⟨f, hf, rfl⟩ := Option.mem_map.mp hcall
  exact (call_set_params_safe h depth hf params).relabel fun _ hop => hop

/-- A tuning stays on its card, calls no function that is not there, and needs no more than two
nested wrappers. -/
theorem tune_frontend_safe (h : FeWired globals card fe) (stack : LockStack) (depth : Nat) :
    (tuneFrontend globals fe stack (depth + 2)).Only (SafeOn card) := by
  unfold tuneFrontend
  split
  next hnone => exact absurd hnone h.tunes
  next setFrontend hset =>
    cases setFrontend with
    | lgs8gxxSetFe => exact call_set_fe_safe h stack _
    | a328SetFrontend =>
        unfold callSetFrontend
        rw [h.setFrontend hset]
        exact Only.bind (fe_mscd_clk_on_safe h) fun _ => call_set_fe_safe h stack depth

end Safe

/-! ## Any history -/

section Histories

variable {τ : Type}

/-- An event with the worlds of the cards. -/
def cardStep (parts : Nat → World CardOp CardAns τ) (depth : Nat)
    (cards : CardSystem × (Nat → τ)) (event : A328Event) : CardSystem × (Nat → τ) :=
  (event.program depth cards.1).run (World.family parts) cards.2

/-- The cards after a history, from when the module was loaded. -/
def cardHistory (parts : Nat → World CardOp CardAns τ) (depth : Nat) (params : A328Params)
    (events : List A328Event) (state : Nat → τ) : CardSystem × (Nat → τ) :=
  events.foldl (cardStep parts depth) (.loaded params, state)

/-- A tuning of every card that has a frontend, at once. -/
def CardSystem.tunes (system : CardSystem) (depth : Nat) (locals : Nat → LockStack)
    (state : Nat → τ) : Threads Nat CardAns (Option TuneResult) τ where
  program card := match system.fe card with
    | none => pure none
    | some fe => some <$> tuneFrontend system.globals fe (locals card) depth
  state := state

/-- Every history leaves a wired system. -/
theorem card_history_wired (parts : Nat → World CardOp CardAns τ) (depth : Nat)
    (params : A328Params) (events : List A328Event) (state : Nat → τ) :
    (cardHistory parts depth params events state).1.Wired := by
  have hloaded : (CardSystem.loaded params).Wired :=
    fun card fe hfe => absurd hfe (Option.not_mem_none fe)
  unfold cardHistory
  generalize CardSystem.loaded params = system at hloaded
  induction events generalizing system state with
  | nil => exact hloaded
  | cons event rest ih =>
      exact ih _ _ ((event_wired hloaded depth event).run (World.family parts) state)

/-- All tunings at once, after a history. -/
def historyTunes (parts : Nat → World CardOp CardAns τ) (depth : Nat) (params : A328Params)
    (events : List A328Event) (state : Nat → τ) (locals : Nat → LockStack) :
    Threads Nat CardAns (Option TuneResult) τ :=
  (cardHistory parts depth params events state).1.tunes depth locals
    (cardHistory parts depth params events state).2

/-- After any history of the cards, all of them can be tuned at once. Every operation of a tuning is
one of its own card, none calls a function that is not there or a wrapper in itself, and whatever
the schedule, a tuning that has ended returned what it returns alone and left its card as it does
alone. -/
theorem tunes_independent (parts : Nat → World CardOp CardAns τ) (depth : Nat)
    (params : A328Params) (events : List A328Event) (state : Nat → τ) (locals : Nat → LockStack) :
    (∀ card, ((historyTunes parts (depth + 2) params events state locals).program card).Only
        (SafeOn card)) ∧
      (historyTunes parts (depth + 2) params events state locals).Independent parts := by
  have hwired := card_history_wired parts (depth + 2) params events state
  unfold historyTunes
  generalize cardHistory parts (depth + 2) params events state = cards at hwired ⊢
  have hsafe (card : Nat) : ((cards.1.tunes (depth + 2) locals cards.2).program card).Only
      (SafeOn card) := by
    show (match cards.1.fe card with
      | none => pure none
      | some fe => some <$> tuneFrontend cards.1.globals fe (locals card) (depth + 2) :
        CardsProgram (Option TuneResult)).Only (SafeOn card)
    split
    next => exact only_pure none
    next fe hfe => exact only_map.mpr (tune_frontend_safe (hwired card fe hfe) _ _)
  exact ⟨hsafe, Threads.Apart.independent fun card => (hsafe card).mono fun op hop => hop.1⟩

end Histories

/-! ## The order of one tuning -/

section Order

variable {globals : A328Globals} {card : Nat} {fe : CardFrontend} {α : Type}
  {steps : List (Exchange (Nat × CardOp) (ComponentAns Nat CardAns))}

/-- The parts of a composition run on the same card. -/
theorem on_cards_bind {β : Type} (program : FeProgram (ComponentAns Nat CardAns) α)
    (f : α → FeProgram (ComponentAns Nat CardAns) β) :
    onCards card (program >>= f) = onCards card program >>= fun value => onCards card (f value) :=
  relabel_bind program f

/-- The demodulator's part of the frontend is on the card. -/
theorem on_cards_demod (program : LgsProgram α) :
    onCards card (demod program) = onCard card (cardDemod program) := by
  induction program with
  | ret value => rfl
  | call op next ih => exact congrArg (Program.call (card, CardOp.demod op)) (funext ih)

/-- The rest of the frontend is as it is. -/
theorem on_cards_rest (program : CardsProgram α) :
    onCards card (program.relabel Sum.inr fun _ reply => reply) = program :=
  (relabel_relabel program).trans (relabel_id program)

/-- `lgs8gxx_set_fe` with the tuner's function, over the cards. -/
theorem on_cards_set_fe (config : Lgs8gxxConfig) (stack : LockStack)
    (call : DtvFrontendProperties → CardsProgram (Int × DtvFrontendProperties))
    (params : DtvFrontendProperties) :
    onCards card (lgs8gxxSetFe config 0 stack
        (some fun params => (call params).relabel Sum.inr fun _ reply => reply) params) = (do
      let tuned ← call params
      let currGi ← onCard card (cardDemod (lgs8gxxAutoLock config stack))
      onCard card (cardDemod (LgsProgram.msleep 10))
      return (0, currGi, tuned.2.reported)) := by
  unfold lgs8gxxSetFe tuneTuner
  dsimp only
  rw [on_cards_bind, on_cards_bind, on_cards_rest, bind_assoc]
  refine congrArg (call params >>= ·) (funext fun tuned => ?_)
  show onCards card (pure tuned.2) >>= _ = _
  rw [show (onCards card (pure tuned.2) : CardsProgram _) = pure tuned.2 from rfl, pure_bind,
    on_cards_bind, on_cards_demod]
  refine congrArg (onCard card _ >>= ·) (funext fun currGi => ?_)
  rw [on_cards_bind, on_cards_demod]
  rfl

/-- What the card number adds to a transcript. -/
theorem produces_on_card {program : CardProgram α} {value : α}
    (h : Produces (onCard card program) steps value) :
    ∃ own, Produces program own value ∧ steps = own.map fun step => ⟨(card, step.1), step.2⟩ := by
  induction program generalizing steps with
  | ret result =>
      obtain ⟨rfl, rfl⟩ := produces_pure.mp h
      exact ⟨[], .ret _, rfl⟩
  | call op next ih =>
      obtain ⟨answer, rest, rfl, hrest⟩ := produces_call.mp h
      obtain ⟨own, hown, rfl⟩ := ih answer hrest
      exact ⟨⟨op, answer⟩ :: own, .call hown, rfl⟩

/-- The steps of `a328_mscd_clk_on` on a card. -/
def clockSteps (card : Nat) : List (Exchange (Nat × CardOp) (ComponentAns Nat CardAns)) :=
  mscdOutputs.map fun output => ⟨(card, .board (.wr output.1 (Mod.cgu + output.2))), ()⟩

/-- The outputs are written one after the other. -/
theorem produces_write_outputs {outputs : List (BitVec 32 × Nat)} {value : Unit}
    (h : Produces (onCard card (cardBoard (writeOutputs outputs))) steps value) :
    steps = outputs.map fun output =>
      ⟨(card, .board (.wr output.1 (Mod.cgu + output.2))), ()⟩ := by
  induction outputs generalizing steps with
  | nil => exact (produces_pure.mp h).1
  | cons output rest ih =>
      obtain ⟨answer, later, rfl, hlater⟩ := produces_call.mp h
      rw [ih hlater]
      rfl

/-- A transfer on the tuner's bus, and a call of the tuner's `set_params`. -/
def tunerStep (card : Nat) (msgs : List I2cMsg) (answer : Int × List I2cMsg) :
    Exchange (Nat × CardOp) (ComponentAns Nat CardAns) := ⟨(card, .tunerTransfer msgs), answer⟩

def tdaStep (card : Nat) (params : DtvFrontendProperties) (answer : Int) :
    Exchange (Nat × CardOp) (ComponentAns Nat CardAns) :=
  ⟨(card, .tda18271SetParams params), answer⟩

/-- After the tuner's `set_params` with that result: nothing when it failed. Otherwise the register
of the standby bit is read, and when that goes through the bit is cleared and the others are kept. -/
inductive WokenUp (card : Nat) : Int →
    List (Exchange (Nat × CardOp) (ComponentAns Nat CardAns)) → Prop
  | failed {result : Int} (hresult : result ≠ 0) : WokenUp card result []
  | unread (read : Int × List I2cMsg) (hread : read.1 ≠ 2) :
      WokenUp card 0 [tunerStep card standbyRead read]
  | cleared (read written : Int × List I2cMsg) (hread : read.1 = 2) :
      WokenUp card 0 [tunerStep card standbyRead read,
        tunerStep card [standbyWrite (readByte read.2)] written]

/-- The standby bit is cleared, unless its register cannot be read. -/
theorem produces_clear_standby {value : Unit}
    (h : Produces (onCard card clearStandby) steps value) : WokenUp card 0 steps := by
  obtain ⟨own, hown, rfl⟩ := produces_on_card h
  obtain ⟨read, rest, rfl, hrest⟩ := produces_call.mp hown
  replace hrest : Produces (if read.1 = 2 then _ else _) rest value := hrest
  split at hrest
  next hread =>
    obtain ⟨written, last, rfl, hlast⟩ := produces_call.mp hrest
    obtain ⟨rfl, -⟩ := produces_pure.mp hlast
    exact .cleared read written hread
  next hread =>
    obtain ⟨rfl, -⟩ := produces_pure.mp hrest
    exact .unread read hread

/-- A call of the wrapped `set_params` of a registered frontend. -/
theorem produces_tuner_wrapper (h : FeWired globals card fe) (hdvb : fe.dvb = some card)
    (hwrapped : fe.setParams = some .a328TunerSetParams) (depth : Nat)
    {params : DtvFrontendProperties} {tuned : Int × DtvFrontendProperties}
    (hsteps : Produces (callSetParams globals fe (depth + 1) .a328TunerSetParams params) steps
      tuned) :
    ∃ standby, steps = tdaStep card (a328TunerParams params) tuned.1 :: standby ∧
      WokenUp card tuned.1 standby ∧ tuned.2 = a328TunerParams params := by
  unfold callSetParams at hsteps
  dsimp only at hsteps
  rw [h.setParams hwrapped] at hsteps
  obtain ⟨first, ⟨result, params'⟩, standby, rfl, htda, hrest⟩ := produces_bind.mp hsteps
  unfold callSetParams at htda
  rw [h.tunerCard] at htda
  obtain ⟨answer, rest, rfl, hpure⟩ := produces_call.mp htda
  obtain ⟨rfl, heq⟩ := produces_pure.mp hpure
  obtain ⟨rfl, rfl⟩ := Prod.mk.inj heq
  replace hrest : Produces (if result = 0 then _ else _) standby tuned := hrest
  have hstandby : feClearStandby fe = onCard card clearStandby := by
    unfold feClearStandby a328FeToDev
    rw [hdvb]
  rw [hstandby] at hrest
  split at hrest
  next hzero =>
    subst hzero
    obtain ⟨woken, ⟨⟩, last, rfl, hwoken, hlast⟩ := produces_bind.mp hrest
    obtain ⟨rfl, rfl⟩ := produces_pure.mp hlast
    rw [List.append_nil]
    exact ⟨woken, rfl, produces_clear_standby hwoken, rfl⟩
  next hfail =>
    obtain ⟨rfl, rfl⟩ := produces_pure.mp hrest
    exact ⟨[], rfl, .failed hfail, rfl⟩

/-- The steps are operations of the demodulator's driver on the card. -/
def DemodSteps (card : Nat) (steps : List (Exchange (Nat × CardOp) (ComponentAns Nat CardAns))) :
    Prop :=
  ∀ step ∈ steps, ∃ op, step.1 = (card, .demod op)

/-- The steps of the demodulator stay on its card. -/
theorem produces_demod {program : LgsProgram α} {value : α}
    (h : Produces (onCard card (cardDemod program)) steps value) : DemodSteps card steps := by
  have hdemod : (cardDemod program).Only fun op => ∃ lgs, op = .demod lgs :=
    (Only.of_forall fun _ => trivial : program.Only fun _ => True).relabel fun op _ => ⟨op, rfl⟩
  have honly : (onCard card (cardDemod program)).Only fun op => ∃ lgs, op = (card, .demod lgs) :=
    hdemod.relabel fun _ ⟨lgs, heq⟩ => ⟨lgs, congrArg (Prod.mk card) heq⟩
  exact fun step hstep => honly.produces h step hstep

/-- The tuner is never asked for DTMB, which it does not know. -/
theorem tuner_params_system (params : DtvFrontendProperties) :
    (a328TunerParams params).deliverySystem ≠ .sysDtmb := by
  unfold a328TunerParams
  split
  next => exact fun heq => by cases heq
  next hother => exact hother

/-- What one tuning does: the clocks of the card, the tuner with the properties that it knows, and
only then the demodulator. -/
structure TuneOrder (card : Nat) (cache : DtvFrontendProperties)
    (steps : List (Exchange (Nat × CardOp) (ComponentAns Nat CardAns))) (result : TuneResult) :
    Prop where
  order : ∃ answer standby rest,
    steps = clockSteps card ++ (tdaStep card (a328TunerParams cache) answer :: standby) ++ rest ∧
      WokenUp card answer standby ∧ DemodSteps card rest
  system : (a328TunerParams cache).deliverySystem ≠ .sysDtmb
  succeeds : result.1 = 0
  reports : result.2.2 = (a328TunerParams cache).reported

/-- A tuning of a wired frontend takes its steps in order. -/
theorem wired_tune_order (h : FeWired globals card fe) (hdvb : fe.dvb = some card)
    (hfrontend : fe.setFrontend = some .a328SetFrontend)
    (hparams : fe.setParams = some .a328TunerSetParams) {stack : LockStack} {depth : Nat}
    {result : TuneResult}
    (hsteps : Produces (tuneFrontend globals fe stack (depth + 2)) steps result) :
    TuneOrder card fe.cache steps result := by
  unfold tuneFrontend at hsteps
  rw [hfrontend] at hsteps
  dsimp only at hsteps
  unfold callSetFrontend at hsteps
  have hclocks : feMscdClkOn fe = onCard card (cardBoard (writeOutputs mscdOutputs)) := by
    unfold feMscdClkOn a328FeToDev
    rw [hdvb]
    rfl
  rw [h.setFrontend hfrontend, hclocks] at hsteps
  obtain ⟨clocks, ⟨⟩, _, rfl, hwritten, hsteps⟩ := produces_bind.mp hsteps
  dsimp only at hsteps
  unfold callSetFrontend at hsteps
  rw [hparams, h.demodCard, Option.map_some, on_cards_set_fe] at hsteps
  obtain ⟨tuner, tuned, _, rfl, htuner, hsteps⟩ := produces_bind.mp hsteps
  obtain ⟨lock, currGi, _, rfl, hlock, hsteps⟩ := produces_bind.mp hsteps
  obtain ⟨pause, ⟨⟩, last, rfl, hpause, hlast⟩ := produces_bind.mp hsteps
  obtain ⟨rfl, rfl⟩ := produces_pure.mp hlast
  obtain ⟨standby, rfl, hwoken, hparams'⟩ := produces_tuner_wrapper h hdvb hparams depth htuner
  refine ⟨⟨tuned.1, standby, lock ++ pause, ?_, hwoken, ?_⟩, tuner_params_system _, rfl,
    congrArg DtvFrontendProperties.reported hparams'⟩
  · rw [produces_write_outputs hwritten, List.append_nil, List.append_assoc]
    rfl
  · intro step hstep
    obtain hmem | hmem := List.mem_append.mp hstep
    · exact produces_demod hlock step hmem
    · exact produces_demod hpause step hmem

/-- After any history, a tuning of a card that was attached as a whole and registered switches its
clocks on first, gives the tuner properties that it knows, wakes the tuner up when that went well,
and then uses the demodulator only. It returns 0 and reports these properties, whatever the tuner
answered. -/
theorem tune_order {τ : Type} {parts : Nat → World CardOp CardAns τ} {depth : Nat}
    {params : A328Params} {events : List A328Event} {state : Nat → τ}
    (hfe : fe ∈ (cardHistory parts (depth + 2) params events state).1.fe card)
    (hregistered : fe.dvb ≠ none) (hfrontend : fe.setFrontend = some .a328SetFrontend)
    (hparams : fe.setParams = some .a328TunerSetParams) {stack : LockStack} {result : TuneResult}
    (hsteps : Produces (tuneFrontend (cardHistory parts (depth + 2) params events state).1.globals
      fe stack (depth + 2)) steps result) :
    TuneOrder card fe.cache steps result := by
  have hwired := card_history_wired parts (depth + 2) params events state card fe hfe
  obtain ⟨other, hother⟩ := Option.ne_none_iff_exists'.mp hregistered
  have hdvb : fe.dvb = some card := by rw [hother, hwired.dvb other hother]
  exact wired_tune_order hwired hdvb hfrontend hparams hsteps

end Order

/-- A card that answers everything, and whose registers all read `0x80`. -/
def willingCard : World CardOp CardAns Unit where
  answer op state := match op with
    | .demod op => (registerBus fun _ => 0x80).answer op state
    | .board op => (boardWorld Environment.plain).answer op Board.reset
    | .tunerTransfer msgs => (msgs.length, msgs.map fun msg => { msg with buf := [0x24] })
    | .kzalloc => true
    | .tda18271Attach => some true
    | .tda18271SetParams _ => (0 : Int)
    | .kfree | .oops => ()
  after _ state := state

/-- The first card is attached and registered, and an application asks for DTMB. -/
def oneCard : CardSystem × (Nat → Unit) :=
  cardHistory (fun _ => willingCard) 2 .default
    [.attach avermediaA328 0 0, .register 0, .setCache 0 dtmbParams] fun _ => ()

/-- Its frontend. -/
def oneFrontend : CardFrontend :=
  { CardFrontend.fresh 0 with
    dvb := some 0
    setFrontend := some .a328SetFrontend
    setParams := some .a328TunerSetParams
    cache := dtmbParams }

/-- A tuning of that card. -/
def oneTuning : CardsProgram TuneResult := tuneFrontend oneCard.1.globals oneFrontend clearedStack 2

/-- A tuning for DTMB does. -/
theorem tune_order_dtmb : TuneOrder 0 dtmbParams
    (oneTuning.transcript (World.family fun _ => willingCard) oneCard.2)
    (oneTuning.run (World.family fun _ => willingCard) oneCard.2).1 := by
  have hfe : oneFrontend ∈ oneCard.1.fe 0 := by rfl
  exact tune_order hfe (Option.some_ne_none 0) rfl rfl
    (produces_run (World.family fun _ => willingCard) oneTuning oneCard.2)

end Saa7231
