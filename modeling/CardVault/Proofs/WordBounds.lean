import CardVault.Transfer.Phases

/-!
The bound of a word. A word is read from some data where both of its bytes are there, and then what
lies around the data in memory does not show. The end of the word is computed in 64 bits, so from the
two last offsets the bound is passed although the word begins in front of the data. A read of a record
stays far from these: it takes the length it is told from the front of an answer.
-/

namespace CardVault

namespace Word

variable {around : UInt64 → UInt8} {data : Bytes} {offset : UInt64}

/-- The end of a word from this offset on wraps round and stays within the data. -/
def Wraps (data : Bytes) (offset : UInt64) : Prop :=
  UInt64.size ≤ offset.toNat + 2 ∧ offset.toNat + 2 - UInt64.size ≤ data.length

instance (data : Bytes) (offset : UInt64) : Decidable (Wraps data offset) :=
  inferInstanceAs (Decidable (_ ∧ _))

theorem bound_passed_iff (addressable : data.length < 0x8000000000000000) :
    ¬ (offset + 2).toNat > data.length ↔ offset.toNat + 2 ≤ data.length ∨ Wraps data offset := by
  have top := offset.toNat_lt
  have sum : (offset + 2).toNat = (offset.toNat + 2) % UInt64.size := UInt64.toNat_add offset 2
  rw [sum, Wraps]
  simp only [UInt64.size]
  omega

theorem Wraps.beyond (wraps : Wraps data offset) (addressable : data.length < 0x8000000000000000) :
    data.length < offset.toNat := by
  have reaches := wraps.1
  simp only [UInt64.size] at reaches
  omega

theorem bytes_inside (inside : offset.toNat + 2 ≤ data.length) :
    ∃ high low, data[offset.toNat]? = some high ∧ data[offset.toNat + 1]? = some low :=
  ⟨_, _, List.getElem?_eq_getElem (by omega), List.getElem?_eq_getElem (by omega)⟩

theorem byteAt_inside {byte : UInt8} (there : data[offset.toNat]? = some byte) :
    byteAt around data offset = byte := by
  rw [byteAt, there]
  rfl

theorem byteAt_outside (beyond : data.length ≤ offset.toNat) :
    byteAt around data offset = around offset := by
  rw [byteAt, List.getElem?_eq_none beyond]
  rfl

theorem at?_eq_some_iff (data : Bytes) (position : Nat) (word : UInt16) :
    at? data position = some word ↔ ∃ high low,
      data[position]? = some high ∧ data[position + 1]? = some low ∧ word = ofBytes high low := by
  have first : data[position]? = (data.drop position)[0]? := by simp
  have second : data[position + 1]? = (data.drop position)[1]? := by simp
  rw [at?, first, second]
  match data.drop position with
  | [] => simp
  | [high] => simp
  | high :: low :: rest => simp [eq_comm]

section Reading

variable (addressable : data.length < 0x8000000000000000)
include addressable

theorem read_inside {high low : UInt8} (inside : offset.toNat + 2 ≤ data.length)
    (first : data[offset.toNat]? = some high) (second : data[offset.toNat + 1]? = some low) :
    read data offset = .ok (some (ofBytes high low)) := by
  rw [read, if_neg ((bound_passed_iff addressable).mpr (.inl inside)),
    (at?_eq_some_iff _ _ _).mpr ⟨high, low, first, second, rfl⟩]

theorem load_inside {high low : UInt8} (inside : offset.toNat + 2 ≤ data.length)
    (first : data[offset.toNat]? = some high) (second : data[offset.toNat + 1]? = some low)
    (around : UInt64 → UInt8) : load around data offset = .ok (ofBytes high low) := by
  have next : (offset + 1).toNat = offset.toNat + 1 := by
    rw [UInt64.toNat_add]
    apply Nat.mod_eq_of_lt
    simp only [UInt64.toNat_ofNat]
    omega
  rw [load, if_neg ((bound_passed_iff addressable).mpr (.inl inside)), byteAt_inside first,
    byteAt_inside (next ▸ second)]

theorem bound_stops (outside : ¬ offset.toNat + 2 ≤ data.length) (straight : ¬ Wraps data offset) :
    (offset + 2).toNat > data.length :=
  Decidable.of_not_not fun passed => ((bound_passed_iff addressable).mp passed).elim outside straight

theorem read_wrapped (wraps : Wraps data offset) : read data offset = .ok none := by
  have missing : at? data offset.toNat = none := by
    rw [Option.eq_none_iff_forall_not_mem]
    intro word found
    have enough := (at?_isSome data offset.toNat).mp (Option.isSome_of_mem found)
    have beyond := wraps.beyond addressable
    omega
  rw [read, if_neg ((bound_passed_iff addressable).mpr (.inr wraps)), missing]

theorem load_wrapped (wraps : Wraps data offset) (around : UInt64 → UInt8) :
    ∃ low, load around data offset = .ok (ofBytes (around offset) low) := by
  refine ⟨byteAt around data (offset + 1), ?_⟩
  rw [load, if_neg ((bound_passed_iff addressable).mpr (.inr wraps)),
    byteAt_outside (Nat.le_of_lt (wraps.beyond addressable))]

theorem load_wrapped_differs (wraps : Wraps data offset) :
    load (fun _ => 0) data offset ≠ load (fun _ => 1) data offset := by
  obtain ⟨low, zero⟩ := load_wrapped addressable wraps fun _ => 0
  obtain ⟨otherLow, one⟩ := load_wrapped addressable wraps fun _ => 1
  rw [zero, one]
  intro same
  have begins := congrArg high (Except.ok.inj same)
  rw [high_ofBytes, high_ofBytes] at begins
  exact absurd begins (by decide)

end Reading

/-- What reading a word from some data comes to, wherever in memory the data lie. -/
structure Bounded (data : Bytes) (offset : UInt64) : Prop where
  inside : offset.toNat + 2 ≤ data.length → ∃ high low word, data[offset.toNat]? = some high ∧
    data[offset.toNat + 1]? = some low ∧ word.toNat = 256 * high.toNat + low.toNat ∧
    read data offset = .ok (some word) ∧ ∀ around, load around data offset = .ok word
  outside : ¬ offset.toNat + 2 ≤ data.length → ¬ Wraps data offset →
    ∃ error : ProtocolError, error.kind = .malformedResponse ∧ error.status = none ∧
      read data offset = .error error ∧ ∀ around, load around data offset = .error error
  /-- Nothing but the data shows in what is read, except from an offset that wraps. -/
  wrapped : Wraps data offset ↔ ∃ around other, load around data offset ≠ load other data offset
  undetermined : Wraps data offset ↔ read data offset = .ok none

theorem bounded (addressable : data.length < 0x8000000000000000) : Bounded data offset := by
  by_cases inside : offset.toNat + 2 ≤ data.length
  · obtain ⟨high, low, first, second⟩ := bytes_inside inside
    have reads := read_inside addressable inside first second
    have loads := load_inside addressable inside first second
    have straight (wraps : Wraps data offset) : False := by
      have beyond := wraps.beyond addressable
      omega
    exact {
      inside := fun _ => ⟨high, low, _, first, second, toNat_ofBytes high low, reads, loads⟩
      outside := fun outside => absurd inside outside
      wrapped := ⟨fun wraps => (straight wraps).elim, fun ⟨around, other, differ⟩ =>
        absurd ((loads around).trans (loads other).symm) differ⟩
      undetermined := ⟨fun wraps => (straight wraps).elim, fun none => by
        rw [reads] at none
        cases none⟩ }
  · by_cases wraps : Wraps data offset
    · exact {
        inside := fun within => absurd within inside
        outside := fun _ straight => absurd wraps straight
        wrapped := iff_of_true wraps ⟨_, _, load_wrapped_differs addressable wraps⟩
        undetermined := iff_of_true wraps (read_wrapped addressable wraps) }
    · have stops := bound_stops addressable inside wraps
      have loads (around : UInt64 → UInt8) : load around data offset = .error .wordMissing :=
        if_pos stops
      have reads : read data offset = .error .wordMissing := if_pos stops
      exact {
        inside := fun within => absurd within inside
        outside := fun _ _ => ⟨.wordMissing, rfl, rfl, reads, loads⟩
        wrapped := iff_of_false wraps fun ⟨around, other, differ⟩ =>
          differ ((loads around).trans (loads other).symm)
        undetermined := iff_of_false wraps fun none => by
          rw [reads] at none
          cases none }

end Word

namespace Transfer

open Dialogue

variable {σ : Type}

def Announces (reply : Reply) (total : UInt64) : Prop :=
  ∃ response high low rest, reply.response? = some response ∧ response.status = 0x9000 ∧
    response.data = high :: low :: rest ∧ total.toNat = 256 * high.toNat + low.toNat

theorem front_toNat (high low : UInt8) :
    (Word.ofBytes high low).toUInt64.toNat = 256 * high.toNat + low.toNat := by
  rw [UInt16.toNat_toUInt64, Word.toNat_ofBytes]

theorem read_front_iff (data : Bytes) (word : UInt16) :
    Word.read data 0 = .ok (some word) ↔
      ∃ high low rest, data = high :: low :: rest ∧ word = Word.ofBytes high low := by
  match data with
  | [] => simp [Word.read]
  | [high] => simp [Word.read]
  | high :: low :: rest =>
      have passed : ¬ (0 + 2 : UInt64).toNat > (high :: low :: rest).length :=
        Nat.not_lt.mpr (Nat.le_add_left 2 rest.length)
      rw [Word.read, if_neg passed]
      simp [Word.at?, eq_comm, and_assoc]

theorem answerRead_ok_iff (response : Response) (transfer : Transfer) :
    handedOn (answerRead (.ok response)) = .ok transfer ↔ ∃ high low rest,
      response.status = 0x9000 ∧ response.data = high :: low :: rest ∧
        transfer = ⟨.read, .init, 0, some (Word.ofBytes high low).toUInt64, 0⟩ := by
  simp only [answerRead, ← StatusWord.isSuccess_iff_eq]
  constructor
  · intro begun
    split at begun
    · rename_i success
      split at begun
      · rename_i word found
        obtain ⟨high, low, rest, front, rfl⟩ := (read_front_iff _ _).mp found
        cases begun
        exact ⟨high, low, rest, success, front, rfl⟩
      · cases begun
    · cases begun
  · rintro ⟨high, low, rest, success, front, rfl⟩
    have found := (read_front_iff response.data _).mpr ⟨high, low, rest, front, rfl⟩
    rw [if_pos success, found]
    rfl

theorem begins_iff_announces (reply : Reply) (transfer : Transfer) :
    handedOn (answerRead (received reply)) = .ok transfer ↔
      ∃ total, Announces reply total ∧ transfer = ⟨.read, .init, 0, some total, 0⟩ := by
  constructor
  · intro begun
    cases outcome : received reply with
    | error fault =>
        rw [outcome] at begun
        cases begun
    | ok response =>
        rw [outcome] at begun
        obtain ⟨high, low, rest, accepted, front, same⟩ := (answerRead_ok_iff _ _).mp begun
        have answer := (Reply.received_eq_ok_iff _ _).mp outcome
        exact ⟨_, ⟨response, high, low, rest, answer, accepted, front, front_toNat high low⟩, same⟩
  · rintro ⟨total, ⟨response, high, low, rest, answer, accepted, front, size⟩, rfl⟩
    have told : total = (Word.ofBytes high low).toUInt64 :=
      UInt64.toNat_inj.mp (size.trans (front_toNat high low).symm)
    rw [(Reply.received_eq_ok_iff _ _).mpr answer]
    exact (answerRead_ok_iff _ _).mpr ⟨high, low, rest, accepted, front, by rw [told]⟩

theorem beginRead_ok_iff (settings : Settings) (envelope : Envelope) (peer : Peer σ) (state : σ)
    (transfer : Transfer) :
    let transcript := (beginRead settings envelope).run peer state
    transcript.value = .ok transfer ↔ ∃ reply total, transcript.replies = [reply] ∧
      Announces reply total ∧ transfer = ⟨.read, .init, 0, some total, 0⟩ := by
  rw [beginRead_eq, openRead, run_map]
  cases envelope.wire with
  | error error => simp [run, Transcript.replies, handedOn]
  | ok data =>
      rw [run_map]
      by_cases fits : (initCommand settings .read data).data.length ≤ 255
      · rw [exchangeFor_fits _ _ fits, run_send]
        generalize peer.answer (initCommand settings .read data).frame state = given
        rcases given with ⟨reply, later⟩
        simp only [run, Transcript.replies, List.filterMap_cons, List.filterMap_nil, Event.reply?,
          List.cons.injEq, and_true]
        rw [begins_iff_announces]
        simp
      · rw [exchangeFor_unfit _ _ (Nat.not_le.mp fits)]
        simp [run, Transcript.replies, answerRead, handedOn]

end Transfer

namespace Word

/-- Words are read within the data from every offset but those that wrap, and exactly from these what
lies in front of the data is read along. A read of a record begins at none of these: the total that it
is told is always the word of the first two bytes of the answer. -/
theorem words_in_bounds_unless_wrapped {σ : Type} {data : Bytes}
    (addressable : data.length < 0x8000000000000000) (offset : UInt64) (settings : Settings)
    (envelope : Envelope) (peer : Peer σ) (state : σ) (transfer : Transfer) :
    Bounded data offset ∧
      let transcript := (Transfer.beginRead settings envelope).run peer state
      transcript.value = .ok transfer ↔ ∃ reply total, transcript.replies = [reply] ∧
        Transfer.Announces reply total ∧ transfer = ⟨.read, .init, 0, some total, 0⟩ :=
  ⟨bounded addressable, Transfer.beginRead_ok_iff settings envelope peer state transfer⟩

theorem last_word_of_three :
    let card := Peer.steady (.ofBytes [1, 2, 0x90, 0]) (.ok [])
    let envelope : Envelope := ⟨⟨text "u", text "a", by decide, by decide⟩, []⟩
    ([7, 1, 2] : Bytes).length < 0x8000000000000000 ∧ Bounded [7, 1, 2] 1 ∧
      read [7, 1, 2] 1 = .ok (some 258) ∧
      ∃ reply total, ((Transfer.beginRead {} envelope).run card ()).replies = [reply] ∧
        Transfer.Announces reply total ∧ total = 258 := by
  intro card envelope
  have short : ([7, 1, 2] : Bytes).length < 0x8000000000000000 := by decide
  obtain ⟨within, begins⟩ := words_in_bounds_unless_wrapped short 1 {} envelope card ()
    ⟨.read, .init, 0, some 258, 0⟩
  obtain ⟨reply, total, once, announces, same⟩ := begins.mp rfl
  cases same
  exact ⟨short, within, rfl, reply, _, once, announces, rfl⟩

/-- From the last offset of all the bound is passed, and the word that is read begins with the byte in
front of the data, whatever that is. -/
theorem last_offset_passes :
    let offset : UInt64 := 0xFFFFFFFFFFFFFFFF
    ¬ offset.toNat + 2 ≤ ([5] : Bytes).length ∧ read [5] offset = .ok none ∧
      load (fun _ => 0) [5] offset = .ok 5 ∧ load (fun _ => 1) [5] offset = .ok 261 :=
  ⟨by decide, rfl, rfl, rfl⟩

end Word

end CardVault
