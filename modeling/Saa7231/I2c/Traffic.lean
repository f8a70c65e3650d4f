import Saa7231.Interaction.Transcript
import Saa7231.I2c.Controller

/-!
# The register traffic of a transfer

The transcript of a transfer, cut into the pieces that its functions produce. `wireWords` lists
the words of a message list. A transfer that succeeds has served all of them, one `i2cSend` each
and one `i2cRecv` after each dummy (`Serves`); one that fails has served a prefix and failed at
the next word (`Breaks`). `xfer_produces` says that these are the two cases.
-/

namespace Saa7231

open Interaction Bus Program

/-- A register access or another operation of a transfer, with its answer. -/
abbrev I2cStep : Type := Exchange (BusOp I2cOp) (BusAns I2cAns)

variable {i2c : I2c} {steps : List I2cStep}

/-! ## Sending and receiving -/

/-- A re-initialisation returns 0 or `-EIO`. -/
theorem hwinit_yields :
    (i2cHwinit i2c : I2cProgram Int).Yields fun err => err = 0 ∨ err = -eio := by
  simp only [i2cHwinit, yields_bind, yields_rd, yields_ite, yields_pure, yields_wr]
  simp [Yields.of_forall]

/-- So do the rounds before a word. -/
theorem recoverTx_yields (n : Nat) :
    (recoverTx i2c n).Yields fun err => err = 0 ∨ err = -eio := by
  induction n with
  | zero => exact Or.inl rfl
  | succ n ih => simp [recoverTx, ih, Yields.of_forall]

/-- So does the check. -/
theorem awaitTx_yields : (awaitTx i2c).Yields fun err => err = 0 ∨ err = -eio := by
  simp [awaitTx, recoverTx_yields]

/-- A send either fails before its word, or writes it and waits for an empty `TX_FIFO`. -/
theorem send_produces {data : BitVec 32} {err : Int}
    (h : Produces (i2cSend i2c data) steps err) :
    (err = -eio ∧ Produces (awaitTx i2c) steps (-eio)) ∨
      ∃ before after empty, Produces (awaitTx i2c) before 0 ∧
        Produces (pollTxEmpty i2c 1000) after empty ∧
        steps = before ++ ⟨.wr data (i2c.dev + txFifo), ()⟩ ::
          ⟨.extra (.udelay 200), ()⟩ :: after ∧
        err = if empty then 0 else -eio := by
  obtain ⟨before, ready, rest, rfl, hready, hrest⟩ := produces_bind.mp h
  have hvalue := awaitTx_yields.produces hready
  cases hvalue with
  | inr hfail =>
      subst hfail
      rw [if_pos (by decide), produces_pure] at hrest
      obtain ⟨rfl, rfl⟩ := hrest
      exact Or.inl ⟨rfl, by rwa [List.append_nil]⟩
  | inl hgo =>
      subst hgo
      rw [if_neg (by decide)] at hrest
      obtain ⟨_, rfl, hwritten⟩ := produces_wr_bind.mp hrest
      obtain ⟨⟨⟩, _, rfl, hwaited⟩ := produces_extra_bind.mp hwritten
      obtain ⟨after, empty, tail, rfl, hpoll, hend⟩ := produces_bind.mp hwaited
      refine Or.inr ⟨before, after, empty, hready, hpoll, ?_⟩
      cases empty with
      | false | true =>
          obtain ⟨rfl, rfl⟩ := produces_pure.mp hend
          exact ⟨by rw [List.append_nil], rfl⟩

/-- So does a send. -/
theorem send_yields {data : BitVec 32} :
    (i2cSend i2c data).Yields fun err => err = 0 ∨ err = -eio := by
  simp only [i2cSend, yields_bind, yields_ite, yields_pure, yields_wr]
  refine awaitTx_yields.mono fun err herr => ⟨fun _ => herr, fun _ => ?_⟩
  refine yields_bind.mpr (.of_forall fun _ => yields_bind.mpr (.of_forall fun empty => ?_))
  cases empty with
  | false => exact Or.inr rfl
  | true => exact herr

/-- A receive either times out or takes one byte. -/
theorem recv_produces {result : Except Int (BitVec 32)}
    (h : Produces (i2cRecv i2c) steps result) :
    (result = .error (-eio) ∧ Produces (pollRx i2c 100) steps false) ∨
      ∃ polls data, Produces (pollRx i2c 100) polls true ∧
        steps = polls ++ [⟨.rd (i2c.dev + rxFifo), data⟩] ∧ result = .ok data := by
  obtain ⟨polls, ready, rest, rfl, hpoll, hrest⟩ := produces_bind.mp h
  cases ready with
  | false =>
      obtain ⟨rfl, rfl⟩ := produces_pure.mp hrest
      exact Or.inl ⟨rfl, by rwa [List.append_nil]⟩
  | true =>
      obtain ⟨data, _, rfl, hend⟩ := produces_rd_bind.mp hrest
      obtain ⟨rfl, rfl⟩ := produces_pure.mp hend
      exact Or.inr ⟨polls, data, hpoll, rfl, rfl⟩

/-! ## The words of a message list -/

/-- A word for `TX_FIFO`, and whether a byte is received after it. -/
structure BusWord where
  word : BitVec 32
  receives : Bool
  deriving DecidableEq

/-- The words of the bytes of a message. -/
def byteWords (read final : Bool) : List (BitVec 8) → List BusWord
  | [] => []
  | byte :: rest =>
      ⟨dataWord read (final && rest.isEmpty) byte, read⟩ :: byteWords read final rest

/-- The words of a message. -/
def msgWords (final : Bool) (msg : I2cMsg) : List BusWord :=
  ⟨addressWord msg, false⟩ :: byteWords msg.isRead final msg.buf

/-- The words of a message list. -/
def wireWords : List I2cMsg → List BusWord
  | [] => []
  | msg :: rest => msgWords rest.isEmpty msg ++ wireWords rest

/-- The messages with the buffers of the reads filled, in order, from a list of bytes. -/
def fillReads : List I2cMsg → List (BitVec 8) → List I2cMsg
  | [], _ => []
  | msg :: rest, bytes =>
      if msg.isRead then
        { msg with buf := bytes.take msg.buf.length } ::
          fillReads rest (bytes.drop msg.buf.length)
      else
        msg :: fillReads rest bytes

/-- The messages with the first read positions filled, in order, from a list of bytes. -/
def storeReads : List I2cMsg → List (BitVec 8) → List I2cMsg
  | [], _ => []
  | msg :: rest, bytes =>
      if msg.isRead then
        { msg with buf := bytes.take msg.buf.length ++ msg.buf.drop bytes.length } ::
          storeReads rest (bytes.drop msg.buf.length)
      else
        msg :: storeReads rest bytes

/-! ## Served words -/

/-- The transcript sends every word and receives the bytes. -/
inductive Serves (i2c : I2c) : List BusWord → List I2cStep → List (BitVec 8) → Prop
  | nil : Serves i2c [] [] []
  | push {word : BitVec 32} {rest : List BusWord} {sent steps : List I2cStep}
      {bytes : List (BitVec 8)} (hsend : Produces (i2cSend i2c word) sent 0)
      (hrest : Serves i2c rest steps bytes) :
      Serves i2c (⟨word, false⟩ :: rest) (sent ++ steps) bytes
  | clock {word data : BitVec 32} {rest : List BusWord} {sent taken steps : List I2cStep}
      {bytes : List (BitVec 8)} (hsend : Produces (i2cSend i2c word) sent 0)
      (hrecv : Produces (i2cRecv i2c) taken (.ok data)) (hrest : Serves i2c rest steps bytes) :
      Serves i2c (⟨word, true⟩ :: rest) (sent ++ (taken ++ steps)) (data.setWidth 8 :: bytes)

/-- The transcript fails at the word. -/
inductive Fails (i2c : I2c) : BusWord → List I2cStep → Prop
  | send {word : BusWord} {sent : List I2cStep}
      (hsend : Produces (i2cSend i2c word.word) sent (-eio)) : Fails i2c word sent
  | recv {word : BitVec 32} {sent taken : List I2cStep}
      (hsend : Produces (i2cSend i2c word) sent 0)
      (hrecv : Produces (i2cRecv i2c) taken (.error (-eio))) :
      Fails i2c ⟨word, true⟩ (sent ++ taken)

/-- The transcript serves some of the words and fails at the next one. -/
def Breaks (i2c : I2c) (words : List BusWord) (steps : List I2cStep) : Prop :=
  ∃ done word rest served failed bytes, words = done ++ word :: rest ∧
    steps = served ++ failed ∧ Serves i2c done served bytes ∧ Fails i2c word failed

/-- The transcript breaks off, after these bytes were received. -/
def BreaksWith (i2c : I2c) (words : List BusWord) (steps : List I2cStep)
    (bytes : List (BitVec 8)) : Prop :=
  ∃ done word rest served failed, words = done ++ word :: rest ∧
    steps = served ++ failed ∧ Serves i2c done served bytes ∧ Fails i2c word failed

/-- The bytes that were received do not matter. -/
theorem BreaksWith.breaks {words : List BusWord} {bytes : List (BitVec 8)}
    (h : BreaksWith i2c words steps bytes) : Breaks i2c words steps := by
  obtain ⟨done, word, rest, served, failed, hwords, hsteps, hserved, hfailed⟩ := h
  exact ⟨done, word, rest, served, failed, bytes, hwords, hsteps, hserved, hfailed⟩

/-- Words are served one after the other. -/
theorem Serves.append {words words' : List BusWord} {steps' : List I2cStep}
    {bytes bytes' : List (BitVec 8)} (h : Serves i2c words steps bytes)
    (h' : Serves i2c words' steps' bytes') :
    Serves i2c (words ++ words') (steps ++ steps') (bytes ++ bytes') := by
  induction h with
  | nil => exact h'
  | push hsend _ ih =>
      rw [List.append_assoc]
      exact .push hsend ih
  | clock hsend hrecv _ ih =>
      rw [List.append_assoc, List.append_assoc]
      exact .clock hsend hrecv ih

/-- The first word may fail. -/
theorem BreaksWith.of_fails {word : BusWord} {rest : List BusWord} (h : Fails i2c word steps) :
    BreaksWith i2c (word :: rest) steps [] :=
  ⟨[], word, rest, [], steps, rfl, rfl, .nil, h⟩

/-- A transfer may break after words that were served. -/
theorem BreaksWith.after {words words' : List BusWord} {steps' : List I2cStep}
    {bytes bytes' : List (BitVec 8)} (h' : BreaksWith i2c words' steps' bytes')
    (h : Serves i2c words steps bytes) :
    BreaksWith i2c (words ++ words') (steps ++ steps') (bytes ++ bytes') := by
  obtain ⟨done, word, rest, served, failed, rfl, rfl, hserved, hfailed⟩ := h'
  exact ⟨words ++ done, word, rest, steps ++ served, failed, by rw [List.append_assoc],
    by rw [List.append_assoc], h.append hserved, hfailed⟩

/-- What would have come after the failure does not matter. -/
theorem BreaksWith.before {words : List BusWord} {bytes : List (BitVec 8)}
    (words' : List BusWord) (h : BreaksWith i2c words steps bytes) :
    BreaksWith i2c (words ++ words') steps bytes := by
  obtain ⟨done, word, rest, served, failed, rfl, hsplit, hserved, hfailed⟩ := h
  exact ⟨done, word, rest ++ words', served, failed, by simp, hsplit, hserved, hfailed⟩

/-- The number of bytes received is the number of dummies. -/
theorem Serves.length_bytes {words : List BusWord} {bytes : List (BitVec 8)}
    (h : Serves i2c words steps bytes) : bytes.length = words.countP (·.receives) := by
  induction h with
  | nil => rfl
  | push _ _ ih => simpa using ih
  | clock _ _ _ ih => simpa using ih

/-! ## The cases of a transfer -/

/-- The result of a byte: its word is served and a read stores the byte received, or the
transfer breaks off. -/
theorem xferByte_produces {read last : Bool} {byte byte' : BitVec 8} {err : Int}
    (h : Produces (xferByte i2c read last byte) steps (err, byte')) :
    (err = 0 ∧ ∃ bytes, Serves i2c [⟨dataWord read last byte, read⟩] steps bytes ∧
        [byte'] = if read then bytes else [byte]) ∨
      (err = -eio ∧ byte' = byte ∧ Fails i2c ⟨dataWord read last byte, read⟩ steps) := by
  obtain ⟨sent, err₁, rest, rfl, hsend, hrest⟩ := produces_bind.mp h
  have hvalue := send_yields.produces hsend
  cases hvalue with
  | inr hfail =>
      subst hfail
      rw [if_pos (by decide), produces_pure] at hrest
      obtain ⟨rfl, hresult⟩ := hrest
      obtain ⟨rfl, rfl⟩ := Prod.mk.inj hresult
      rw [List.append_nil]
      exact Or.inr ⟨rfl, rfl, .send hsend⟩
  | inl hsent =>
      subst hsent
      rw [if_neg (by decide)] at hrest
      cases read with
      | false =>
          obtain ⟨rfl, hresult⟩ := produces_pure.mp hrest
          obtain ⟨rfl, rfl⟩ := Prod.mk.inj hresult
          exact Or.inl ⟨rfl, [], .push hsend .nil, rfl⟩
      | true =>
          obtain ⟨taken, received, tail, rfl, hrecv, hend⟩ := produces_bind.mp hrest
          cases received with
          | error err₂ =>
              obtain ⟨rfl, hresult⟩ := produces_pure.mp hend
              obtain ⟨rfl, rfl⟩ := Prod.mk.inj hresult
              rw [List.append_nil]
              refine Or.inr ⟨rfl, rfl, .recv hsend ?_⟩
              obtain ⟨herr, _⟩ | ⟨_, _, _, _, hok⟩ := recv_produces hrecv
              · rwa [herr] at hrecv
              · cases hok
          | ok data =>
              obtain ⟨rfl, hresult⟩ := produces_pure.mp hend
              obtain ⟨rfl, rfl⟩ := Prod.mk.inj hresult
              exact Or.inl ⟨rfl, _, .clock hsend hrecv .nil, rfl⟩

/-- The bytes of a message are served, or break off. -/
theorem xferBytes_produces {read final : Bool} {buf buf' : List (BitVec 8)} {err : Int}
    (h : Produces (xferBytes i2c read final buf) steps (err, buf')) :
    (err = 0 ∧ ∃ bytes, Serves i2c (byteWords read final buf) steps bytes ∧
        buf' = if read then bytes else buf) ∨
      (err = -eio ∧ ∃ bytes, BreaksWith i2c (byteWords read final buf) steps bytes ∧
        buf' = if read then bytes ++ buf.drop bytes.length else buf) := by
  induction buf generalizing steps err buf' with
  | nil =>
      obtain ⟨rfl, hresult⟩ := produces_pure.mp h
      obtain ⟨rfl, rfl⟩ := Prod.mk.inj hresult
      exact Or.inl ⟨rfl, [], .nil, by cases read <;> rfl⟩
  | cons byte rest ih =>
      obtain ⟨first, ⟨err₁, byte'⟩, tail, rfl, hbyte, htail⟩ := produces_bind.mp h
      obtain ⟨rfl, bytes, hserved, hstored⟩ | ⟨rfl, rfl, hfailed⟩ := xferByte_produces hbyte
      · dsimp only at htail
        rw [if_neg (by decide)] at htail
        obtain ⟨second, ⟨err₂, rest'⟩, last, rfl, hbytes, hend⟩ := produces_bind.mp htail
        obtain ⟨rfl, hresult⟩ := produces_pure.mp hend
        obtain ⟨rfl, rfl⟩ := Prod.mk.inj hresult
        rw [List.append_nil]
        obtain ⟨rfl, bytes', hserved', rfl⟩ | ⟨rfl, bytes', hbreaks, rfl⟩ := ih hbytes
        · refine Or.inl ⟨rfl, bytes ++ bytes', hserved.append hserved', ?_⟩
          cases read with
          | false => exact congrArg (· ++ rest) hstored
          | true => exact congrArg (· ++ bytes') hstored
        · refine Or.inr ⟨rfl, bytes ++ bytes', hbreaks.after hserved, ?_⟩
          cases read with
          | false => exact congrArg (· ++ rest) hstored
          | true =>
              rw [if_pos rfl] at hstored ⊢
              rw [← hstored]
              rfl
      · dsimp only at htail
        rw [if_pos (by decide), produces_pure] at htail
        obtain ⟨rfl, hresult⟩ := htail
        obtain ⟨rfl, rfl⟩ := Prod.mk.inj hresult
        rw [List.append_nil]
        exact Or.inr ⟨rfl, [], .of_fails hfailed, by cases read <;> rfl⟩

/-- The bytes received in a message fill its buffer when it is a read. -/
theorem xferMsg_produces {final : Bool} {msg msg' : I2cMsg} {err : Int}
    (h : Produces (xferMsg i2c final msg) steps (err, msg')) :
    (err = 0 ∧ ∃ bytes, Serves i2c (msgWords final msg) steps bytes ∧
        msg' = { msg with buf := if msg.isRead then bytes else msg.buf }) ∨
      (err = -eio ∧ ∃ bytes, BreaksWith i2c (msgWords final msg) steps bytes ∧
        msg' = { msg with
          buf := if msg.isRead then bytes ++ msg.buf.drop bytes.length else msg.buf }) := by
  obtain ⟨sent, err₁, rest, rfl, hsend, hrest⟩ := produces_bind.mp h
  have hvalue := send_yields.produces hsend
  cases hvalue with
  | inr hfail =>
      subst hfail
      rw [if_pos (by decide), produces_pure] at hrest
      obtain ⟨rfl, hresult⟩ := hrest
      obtain ⟨rfl, rfl⟩ := Prod.mk.inj hresult
      rw [List.append_nil]
      refine Or.inr ⟨rfl, [], .of_fails (.send hsend), ?_⟩
      rw [List.nil_append, List.length_nil, List.drop_zero, ite_self]
  | inl hsent =>
      subst hsent
      rw [if_neg (by decide)] at hrest
      obtain ⟨second, ⟨err₂, buf⟩, last, rfl, hbytes, hend⟩ := produces_bind.mp hrest
      obtain ⟨rfl, hresult⟩ := produces_pure.mp hend
      obtain ⟨rfl, rfl⟩ := Prod.mk.inj hresult
      rw [List.append_nil]
      obtain ⟨rfl, bytes, hserved, rfl⟩ | ⟨rfl, bytes, hbreaks, rfl⟩ := xferBytes_produces hbytes
      · exact Or.inl ⟨rfl, bytes, .push hsend hserved, rfl⟩
      · have hopened : Serves i2c [⟨addressWord msg, false⟩] sent [] := by
          simpa using Serves.push hsend .nil
        exact Or.inr ⟨rfl, bytes, hbreaks.after hopened, rfl⟩

/-- The words of a read clock a byte each. -/
theorem receives_byteWords (read final : Bool) (buf : List (BitVec 8)) :
    (byteWords read final buf).countP (·.receives) = if read then buf.length else 0 := by
  induction buf with
  | nil => cases read <;> rfl
  | cons byte rest ih => cases read <;> simp_all [byteWords]

/-- Filling a message takes as many bytes as the message received. -/
theorem fillReads_cons {final : Bool} {msg : I2cMsg} {bytes : List (BitVec 8)}
    (hserved : Serves i2c (msgWords final msg) steps bytes) (rest : List I2cMsg)
    (bytes' : List (BitVec 8)) :
    fillReads (msg :: rest) (bytes ++ bytes') =
      { msg with buf := if msg.isRead then bytes else msg.buf } :: fillReads rest bytes' := by
  have hlength := hserved.length_bytes
  rw [msgWords, List.countP_cons_of_neg (by simp), receives_byteWords] at hlength
  cases hread : msg.isRead with
  | true =>
      rw [hread, if_pos rfl] at hlength
      simp [fillReads, hread, ← hlength]
  | false =>
      rw [hread, if_neg (by decide), List.length_eq_zero_iff] at hlength
      simp [fillReads, hread, hlength]

/-- Storing the bytes of a served message, and then those of the messages after it. -/
theorem storeReads_served {final : Bool} {msg : I2cMsg} {bytes : List (BitVec 8)}
    (hserved : Serves i2c (msgWords final msg) steps bytes) (rest : List I2cMsg)
    (bytes' : List (BitVec 8)) :
    storeReads (msg :: rest) (bytes ++ bytes') =
      { msg with buf := if msg.isRead then bytes else msg.buf } :: storeReads rest bytes' := by
  have hlength := hserved.length_bytes
  rw [msgWords, List.countP_cons_of_neg (by simp), receives_byteWords] at hlength
  cases hread : msg.isRead with
  | true =>
      rw [hread, if_pos rfl] at hlength
      simp [storeReads, hread, ← hlength]
  | false =>
      rw [hread, if_neg (by decide), List.length_eq_zero_iff] at hlength
      simp [storeReads, hread, hlength]

/-- Without bytes the messages stay. -/
theorem storeReads_nil (msgs : List I2cMsg) : storeReads msgs [] = msgs := by
  induction msgs with
  | nil => rfl
  | cons msg rest ih => simp [storeReads, ih]

/-- Storing the bytes of a message that was broken off. -/
theorem storeReads_broken {final : Bool} {msg : I2cMsg} {bytes : List (BitVec 8)}
    (hbreaks : BreaksWith i2c (msgWords final msg) steps bytes) (rest : List I2cMsg) :
    storeReads (msg :: rest) bytes = { msg with
      buf := if msg.isRead then bytes ++ msg.buf.drop bytes.length else msg.buf } :: rest := by
  obtain ⟨done, word, later, served, failed, hwords, _, hserved, _⟩ := hbreaks
  have hlength := hserved.length_bytes
  have hcount := congrArg (List.countP (·.receives)) hwords
  rw [List.countP_append, msgWords, List.countP_cons_of_neg (by simp), receives_byteWords,
    ← hlength] at hcount
  cases hread : msg.isRead with
  | true =>
      rw [hread, if_pos rfl] at hcount
      have hfits : bytes.length ≤ msg.buf.length := by omega
      simp [storeReads, hread, storeReads_nil, List.take_of_length_le hfits,
        List.drop_of_length_le hfits]
  | false =>
      rw [hread, if_neg (by decide)] at hcount
      have hnone : bytes = [] := List.length_eq_zero_iff.mp (by omega)
      simp [storeReads, hread, storeReads_nil, hnone]

/-- The messages of a transfer are served, or break off. -/
theorem xferMsgs_produces {msgs msgs' : List I2cMsg} {err : Int}
    (h : Produces (xferMsgs i2c msgs) steps (err, msgs')) :
    (err = 0 ∧ ∃ bytes, Serves i2c (wireWords msgs) steps bytes ∧
        msgs' = fillReads msgs bytes ∧ msgs' = storeReads msgs bytes) ∨
      (err = -eio ∧ ∃ bytes, BreaksWith i2c (wireWords msgs) steps bytes ∧
        msgs' = storeReads msgs bytes) := by
  induction msgs generalizing steps err msgs' with
  | nil =>
      obtain ⟨rfl, hresult⟩ := produces_pure.mp h
      obtain ⟨rfl, rfl⟩ := Prod.mk.inj hresult
      exact Or.inl ⟨rfl, [], .nil, rfl, rfl⟩
  | cons msg rest ih =>
      obtain ⟨first, ⟨err₁, msg'⟩, tail, rfl, hmsg, htail⟩ := produces_bind.mp h
      obtain ⟨rfl, bytes, hserved, rfl⟩ | ⟨rfl, bytes, hbreaks, rfl⟩ := xferMsg_produces hmsg
      · dsimp only at htail
        rw [if_neg (by decide)] at htail
        obtain ⟨second, ⟨err₂, rest'⟩, last, rfl, hmsgs, hend⟩ := produces_bind.mp htail
        obtain ⟨rfl, hresult⟩ := produces_pure.mp hend
        obtain ⟨rfl, rfl⟩ := Prod.mk.inj hresult
        rw [List.append_nil]
        obtain ⟨rfl, bytes', hserved', hfilled, hstored⟩ | ⟨rfl, bytes', hbreaks, rfl⟩ := ih hmsgs
        · refine Or.inl ⟨rfl, bytes ++ bytes', hserved.append hserved', ?_, ?_⟩
          · rw [fillReads_cons hserved, hfilled]
          · rw [storeReads_served hserved, hstored]
        · exact Or.inr ⟨rfl, bytes ++ bytes', hbreaks.after hserved,
            (storeReads_served hserved rest bytes').symm⟩
      · dsimp only at htail
        rw [if_pos (by decide), produces_pure] at htail
        obtain ⟨rfl, hresult⟩ := htail
        obtain ⟨rfl, rfl⟩ := Prod.mk.inj hresult
        rw [List.append_nil]
        exact Or.inr ⟨rfl, bytes, hbreaks.before _, (storeReads_broken hbreaks rest).symm⟩

/-- The steps of a transfer around its words: the lock, the GO bit and the unlock. -/
def framed (i2c : I2c) (reg : BitVec 32) (steps : List I2cStep) : List I2cStep :=
  ⟨.extra .mutexLock, ()⟩ :: ⟨.rd (i2c.dev + i2cControl), reg⟩ ::
    ⟨.wr (reg ||| 0x01) (i2c.dev + i2cControl), ()⟩ :: (steps ++ [⟨.extra .mutexUnlock, ()⟩])

/-- A transfer stores the bytes it received; it returns `num` and has served all its words, or
returns `-EIO` and has served some of them. -/
theorem xfer_stores {msgs msgs' : List I2cMsg} {result : Int}
    (h : Produces (i2cXfer i2c msgs) steps (result, msgs')) :
    ∃ reg middle bytes, steps = framed i2c reg middle ∧ msgs' = storeReads msgs bytes ∧
      ((result = msgs.length ∧ Serves i2c (wireWords msgs) middle bytes ∧
          msgs' = fillReads msgs bytes) ∨
        (result = -eio ∧ BreaksWith i2c (wireWords msgs) middle bytes)) := by
  obtain ⟨⟨⟩, _, rfl, hlocked⟩ := produces_extra_bind.mp h
  obtain ⟨reg, _, rfl, hread⟩ := produces_rd_bind.mp hlocked
  obtain ⟨_, rfl, hgo⟩ := produces_wr_bind.mp hread
  obtain ⟨middle, ⟨err, msgs₁⟩, _, rfl, hmsgs, hlast⟩ := produces_bind.mp hgo
  obtain ⟨⟨⟩, _, rfl, hend⟩ := produces_extra_bind.mp hlast
  obtain ⟨rfl, hresult⟩ := produces_pure.mp hend
  obtain ⟨rfl, rfl⟩ := Prod.mk.inj hresult
  obtain ⟨rfl, bytes, hserved, hfilled, hstored⟩ | ⟨rfl, bytes, hbreaks, hstored⟩ :=
    xferMsgs_produces hmsgs
  · exact ⟨reg, middle, bytes, rfl, hstored, Or.inl ⟨rfl, hserved, hfilled⟩⟩
  · exact ⟨reg, middle, bytes, rfl, hstored, Or.inr ⟨rfl, hbreaks⟩⟩

/-- A transfer is framed by the lock and the GO bit. -/
theorem xfer_produces {msgs msgs' : List I2cMsg} {result : Int}
    (h : Produces (i2cXfer i2c msgs) steps (result, msgs')) :
    ∃ reg middle, steps = framed i2c reg middle ∧
      ((result = msgs.length ∧ ∃ bytes, Serves i2c (wireWords msgs) middle bytes ∧
          msgs' = fillReads msgs bytes) ∨
        (result = -eio ∧ Breaks i2c (wireWords msgs) middle)) := by
  obtain ⟨reg, middle, bytes, hsteps, _, hcases⟩ := xfer_stores h
  refine ⟨reg, middle, hsteps, ?_⟩
  obtain ⟨hresult, hserved, hfilled⟩ | ⟨hresult, hbreaks⟩ := hcases
  · exact Or.inl ⟨hresult, bytes, hserved, hfilled⟩
  · exact Or.inr ⟨hresult, hbreaks.breaks⟩

/-- A transfer that returned `num` has served all its words. -/
theorem xfer_serves {msgs msgs' : List I2cMsg}
    (h : Produces (i2cXfer i2c msgs) steps (msgs.length, msgs')) :
    ∃ reg middle bytes, steps = framed i2c reg middle ∧ Serves i2c (wireWords msgs) middle bytes ∧
      msgs' = fillReads msgs bytes := by
  obtain ⟨reg, middle, hsteps, ⟨_, bytes, hserved, hfilled⟩ | ⟨hresult, _⟩⟩ := xfer_produces h
  · exact ⟨reg, middle, bytes, hsteps, hserved, hfilled⟩
  · have hnegative : -eio < 0 := by decide
    omega

end Saa7231
