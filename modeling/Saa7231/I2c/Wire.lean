import Saa7231.I2c.Words

/-!
# Decoding the words on the wire

A word with the START bit opens a message and gives its address and direction; the words after
it are its bytes. `decode` reads a message list off the words, and `decode_wireWords` says that
the words of a transfer decode to its messages: the START bit of every word and the address bits
are kept apart by the ten bits of a word. The STOP bit stands on the last word only, and only
when the last message has a byte to carry it.
-/

namespace Saa7231

open Interaction Bus Program

/-! ## The abstract wire -/

/-- The word opens a message. -/
def starts (word : BitVec 32) : Bool := word &&& i2cStartBit != 0

/-- The word releases the bus. -/
def stops (word : BitVec 32) : Bool := word &&& i2cStopBit != 0

/-- A message on the wire. -/
structure WireMsg where
  address : BitVec 7
  read : Bool
  data : List (BitVec 8)
  deriving DecidableEq

/-- The message that the slave sees: for a read, one zero dummy for each byte requested. -/
def I2cMsg.onWire (msg : I2cMsg) : WireMsg where
  address := msg.addr.setWidth 7
  read := msg.isRead
  data := if msg.isRead then List.replicate msg.buf.length 0 else msg.buf

/-- The bytes before the first START, and the messages from there on. -/
def splitWords : List (BitVec 32) → List (BitVec 8) × List WireMsg
  | [] => ([], [])
  | word :: rest =>
      let (bytes, msgs) := splitWords rest
      if starts word then
        ([], ⟨word.extractLsb' 1 7, word.getLsbD 0, bytes⟩ :: msgs)
      else
        (word.setWidth 8 :: bytes, msgs)

/-- The messages that the words carry, when they begin with a START. -/
def decode (words : List (BitVec 32)) : Option (List WireMsg) :=
  match splitWords words with
  | ([], msgs) => some msgs
  | (_ :: _, _) => none

/-! ## The bits of a word -/

theorem starts_dataWord (read last : Bool) (byte : BitVec 8) :
    starts (dataWord read last byte) = false := by
  revert read last byte
  decide +kernel

theorem stops_dataWord (read last : Bool) (byte : BitVec 8) :
    stops (dataWord read last byte) = last := by
  revert read last byte
  decide +kernel

theorem low_dataWord (read last : Bool) (byte : BitVec 8) :
    (dataWord read last byte).setWidth 8 = if read then 0 else byte := by
  revert read last byte
  decide +kernel

/-- The fields of the word of a 7-bit address do not overlap. -/
theorem addressWord_fields (address : BitVec 7) (read : Bool) :
    let word := (address.setWidth 32 <<< 1 ||| i2cStartBit) ||| if read then 1 else 0
    starts word ∧ stops word = false ∧ word.extractLsb' 1 7 = address ∧
      word.getLsbD 0 = read := by
  revert address read
  decide +kernel

theorem addressWord_eq {msg : I2cMsg} (hseven : msg.addr < 128) :
    addressWord msg = ((msg.addr.setWidth 7).setWidth 32 <<< 1 ||| i2cStartBit) |||
      if msg.isRead then 1 else 0 := by
  have haddr : (msg.addr.setWidth 7).setWidth 32 = msg.addr.setWidth 32 := by
    have hlt : msg.addr.toNat < 128 := hseven
    apply BitVec.eq_of_toNat_eq
    simp only [BitVec.toNat_setWidth]
    omega
  rw [addressWord, haddr]
  cases msg.isRead with
  | false => exact (BitVec.or_zero).symm
  | true => rfl

theorem addressWord_decodes {msg : I2cMsg} (hseven : msg.addr < 128) :
    starts (addressWord msg) ∧ stops (addressWord msg) = false ∧
      (addressWord msg).extractLsb' 1 7 = msg.addr.setWidth 7 ∧
      (addressWord msg).getLsbD 0 = msg.isRead := by
  rw [addressWord_eq hseven]
  exact addressWord_fields _ _

/-! ## Decoding a transfer -/

/-- The words of the bytes of a message are read as bytes. -/
theorem splitWords_byteWords (read final : Bool) (buf : List (BitVec 8))
    {words : List (BitVec 32)} {msgs : List WireMsg} (hwords : splitWords words = ([], msgs)) :
    splitWords ((byteWords read final buf).map (·.word) ++ words) =
      (if read then List.replicate buf.length 0 else buf, msgs) := by
  induction buf with
  | nil => cases read <;> exact hwords
  | cons byte rest ih =>
      rw [byteWords, List.map_cons, List.cons_append, splitWords, ih, starts_dataWord,
        low_dataWord]
      cases read <;> rfl

theorem splitWords_wireWords {msgs : List I2cMsg} (hseven : ∀ msg ∈ msgs, msg.addr < 128) :
    splitWords ((wireWords msgs).map (·.word)) = ([], msgs.map I2cMsg.onWire) := by
  induction msgs with
  | nil => rfl
  | cons msg rest ih =>
      have hrest := ih fun other hother => hseven other (List.mem_cons_of_mem _ hother)
      obtain ⟨hstart, _, haddress, hread⟩ :=
        addressWord_decodes (hseven msg List.mem_cons_self)
      rw [wireWords, List.map_append, msgWords, List.map_cons, List.cons_append, splitWords,
        splitWords_byteWords _ _ _ hrest, hstart, haddress, hread]
      rfl

/-- The words of a transfer decode to its messages. -/
theorem decode_wireWords {msgs : List I2cMsg} (hseven : ∀ msg ∈ msgs, msg.addr < 128) :
    decode ((wireWords msgs).map (·.word)) = some (msgs.map I2cMsg.onWire) := by
  rw [decode, splitWords_wireWords hseven]

/-! ## The STOP bit -/

/-- No word of the list releases the bus. -/
def Open (words : List BusWord) : Prop := ∀ word ∈ words, stops word.word = false

/-- The last word of the list releases the bus, and no word before it does. -/
def StopsLast (words : List (BitVec 32)) : Prop :=
  ∃ init last, words = init ++ [last] ∧ (∀ word ∈ init, stops word = false) ∧ stops last

theorem StopsLast.after_open {words : List BusWord} {rest : List (BitVec 32)}
    (hopen : Open words) (h : StopsLast rest) : StopsLast (words.map (·.word) ++ rest) := by
  obtain ⟨init, last, rfl, hinit, hlast⟩ := h
  refine ⟨words.map (·.word) ++ init, last, by rw [List.append_assoc], ?_, hlast⟩
  intro word hword
  obtain hfirst | hsecond := List.mem_append.mp hword
  · obtain ⟨pushed, hpushed, rfl⟩ := List.mem_map.mp hfirst
    exact hopen pushed hpushed
  · exact hinit word hsecond

theorem open_byteWords (read : Bool) (buf : List (BitVec 8)) :
    Open (byteWords read false buf) := by
  induction buf with
  | nil => exact fun word hword => absurd hword List.not_mem_nil
  | cons byte rest ih =>
      intro word hword
      cases hword with
      | head => exact stops_dataWord _ _ _
      | tail _ htail => exact ih word htail

/-- The bytes of the final message carry the STOP bit on the last one. -/
theorem byteWords_stopsLast (read : Bool) {buf : List (BitVec 8)} (hne : buf ≠ []) :
    StopsLast ((byteWords read true buf).map (·.word)) := by
  induction buf with
  | nil => exact absurd rfl hne
  | cons byte rest ih =>
      cases rest with
      | nil =>
          exact ⟨[], _, rfl, fun word hword => absurd hword List.not_mem_nil,
            stops_dataWord _ _ _⟩
      | cons next rest =>
          refine @StopsLast.after_open [_] _ ?_ (ih (List.cons_ne_nil _ _))
          intro word hword
          obtain rfl := List.mem_singleton.mp hword
          exact stops_dataWord _ _ _

theorem open_address {msg : I2cMsg} (hseven : msg.addr < 128) {words : List BusWord}
    (hopen : Open words) : Open (⟨addressWord msg, false⟩ :: words) := by
  intro word hword
  cases hword with
  | head => exact (addressWord_decodes hseven).2.1
  | tail _ htail => exact hopen word htail

/-- A last message with a byte releases the bus, with the last word only. -/
theorem wireWords_stopsLast {msgs : List I2cMsg} (hseven : ∀ msg ∈ msgs, msg.addr < 128)
    (hne : msgs ≠ []) (hlast : (msgs.getLast hne).buf ≠ []) :
    StopsLast ((wireWords msgs).map (·.word)) := by
  induction msgs with
  | nil => exact absurd rfl hne
  | cons msg rest ih =>
      have haddr := hseven msg List.mem_cons_self
      rw [wireWords, List.map_append]
      cases rest with
      | nil =>
          rw [wireWords, List.map_nil, List.append_nil]
          refine @StopsLast.after_open [_] _ (open_address haddr ?_)
            (byteWords_stopsLast _ hlast)
          exact fun word hword => absurd hword List.not_mem_nil
      | cons next rest =>
          refine .after_open (open_address haddr (open_byteWords _ _)) (ih ?_ ?_ hlast)
          · exact fun other hother => hseven other (List.mem_cons_of_mem _ hother)
          · exact List.cons_ne_nil _ _

/-- A last message without a byte leaves every word without the STOP bit. -/
theorem open_wireWords {msgs : List I2cMsg} (hseven : ∀ msg ∈ msgs, msg.addr < 128)
    (hne : msgs ≠ []) (hlast : (msgs.getLast hne).buf = []) : Open (wireWords msgs) := by
  induction msgs with
  | nil => exact absurd rfl hne
  | cons msg rest ih =>
      have haddr := hseven msg List.mem_cons_self
      cases rest with
      | nil =>
          have hbuf : msg.buf = [] := hlast
          rw [wireWords, msgWords, hbuf]
          exact open_address haddr fun word hword => absurd hword List.not_mem_nil
      | cons next rest =>
          have hrest : Open (wireWords (next :: rest)) :=
            ih (fun other hother => hseven other (List.mem_cons_of_mem _ hother))
              (List.cons_ne_nil _ _) hlast
          intro word hword
          obtain hfirst | hsecond := List.mem_append.mp hword
          · exact open_address haddr (open_byteWords _ _) word hfirst
          · exact hrest word hsecond

end Saa7231
