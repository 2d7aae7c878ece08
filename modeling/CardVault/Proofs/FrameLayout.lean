import CardVault.Command
import CardVault.RecordKey

/-!
The layout of frames. `Body` says which bytes may follow the header of a command and what they stand
for; the commands that can be encoded are those with such a body, and reading is the inverse. A
response is read in one way only, as its status word has a fixed place at the end.
-/

namespace CardVault

/-- A key inside a frame: the user name and the address, each behind its length. -/
def RecordKey.spelled (key : RecordKey) : Bytes :=
  UInt8.ofNat key.username.length :: key.username ++
    UInt8.ofNat key.address.length :: key.address

namespace Command

variable {command : Command} {bytes body data : Bytes} {expected : Option UInt8}

/-- What may stand behind a header, and the data and the expected length that it stands for: nothing,
a zero and the expected length, or a length and as many bytes of data, where one byte more is the
expected length. -/
inductive Body : Bytes → Bytes → Option UInt8 → Prop where
  | bare : Body [] [] none
  | expecting (expected : UInt8) : Body [0, expected] [] (some expected)
  | filled {size : UInt8} {data : Bytes} (positive : 0 < size.toNat)
      (counted : data.length = size.toNat) (expected : Option UInt8) :
      Body (size :: data ++ expected.toList) data expected

theorem Body.short (laid : Body body data expected) : data.length ≤ 255 := by
  cases laid with
  | bare => exact Nat.zero_le _
  | expecting expected => exact Nat.zero_le _
  | @filled size _ _ counted =>
      have bound := size.toNat_lt
      omega

/-- The bytes of a command: four bytes of header and a body. -/
def Laid (command : Command) (bytes : Bytes) : Prop :=
  ∃ body, bytes = command.cla :: command.ins :: command.p1 :: command.p2 :: body ∧
    Body body command.data command.expected

theorem Body.unique {other : Bytes} (laid : Body body data expected)
    (laidToo : Body other data expected) : body = other := by
  cases laid with
  | bare =>
      cases laidToo with
      | bare => rfl
      | filled positive counted => exact absurd counted.symm (Nat.ne_of_gt positive)
  | expecting expected =>
      cases laidToo with
      | expecting => rfl
      | filled positive counted => exact absurd counted.symm (Nat.ne_of_gt positive)
  | filled positive counted =>
      cases laidToo with
      | bare => exact absurd counted.symm (Nat.ne_of_gt positive)
      | expecting => exact absurd counted.symm (Nat.ne_of_gt positive)
      | filled _ countedToo =>
          have same := UInt8.toNat_inj.mp (counted.symm.trans countedToo)
          rw [same]

theorem body_laid (fits : command.data.length ≤ 255) :
    Body command.body command.data command.expected := by
  unfold body
  split
  · rename_i empty silent
    rw [empty, silent]
    exact .bare
  · rename_i empty expects
    rw [empty, expects]
    exact .expecting _
  · rename_i neither onlyExpected
    have some : 0 < command.data.length := by
      apply List.length_pos_iff.mpr
      intro empty
      cases wait : command.expected with
      | none => exact neither empty wait
      | some expected => exact onlyExpected expected empty wait
    have size : (UInt8.ofNat command.data.length).toNat = command.data.length := by
      rw [UInt8.toNat_ofNat', Nat.mod_eq_of_lt (by omega)]
    exact .filled (by omega) size.symm command.expected

theorem frame_laid (fits : command.data.length ≤ 255) : command.Laid command.frame :=
  ⟨command.body, rfl, body_laid fits⟩

theorem body_of_take? {size : UInt8} {rest : Bytes} (nonzero : size ≠ 0)
    (taken : Field.take? (size :: rest) = some (data, expected.toList)) :
    Body (size :: rest) data expected := by
  rcases (Field.take?_eq_some_iff _ _ _).mp taken with ⟨short, bytes⟩
  have sizes : size = UInt8.ofNat data.length := (List.cons.inj bytes).1
  have counted : data.length = size.toNat := by
    rw [sizes, UInt8.toNat_ofNat', Nat.mod_eq_of_lt (by omega)]
  have positive : size.toNat ≠ 0 := fun zero => nonzero (UInt8.toNat_inj.mp zero)
  rw [(List.cons.inj bytes).2]
  exact .filled (Nat.pos_of_ne_zero positive) counted expected

theorem parseBody?_eq_some_iff :
    parseBody? body = some (data, expected) ↔ Body body data expected := by
  constructor
  · intro parsed
    unfold parseBody? at parsed
    split at parsed
    · cases parsed
      exact .bare
    · split at parsed
      · cases parsed
        exact .expecting _
      · cases parsed
    · rename_i size rest nonzero
      split at parsed
      · rename_i taken
        cases parsed
        exact body_of_take? nonzero taken
      · rename_i taken
        cases parsed
        exact body_of_take? nonzero taken
      · cases parsed
  · intro laid
    cases laid with
    | bare => rfl
    | expecting expected => rfl
    | @filled size _ positive counted expected =>
        have filled : data ≠ [] := by
          rintro rfl
          exact absurd counted.symm (Nat.ne_of_gt positive)
        have bound := size.toNat_lt
        have same : size = UInt8.ofNat data.length := by
          rw [counted, UInt8.ofNat_toNat]
        rw [same]
        exact parseBody?_filled data expected filled (by omega)

theorem encode_eq_ok_iff_laid : command.encode = .ok bytes ↔ command.Laid bytes := by
  rw [encode_eq_ok_iff]
  constructor
  · rintro ⟨fits, rfl⟩
    exact ⟨command.body, rfl, body_laid fits⟩
  · rintro ⟨body, rfl, laid⟩
    have fits := laid.short
    rw [laid.unique (body_laid fits)]
    exact ⟨fits, rfl⟩

theorem Laid.eq_frame (laid : command.Laid bytes) : bytes = command.frame :=
  ((encode_eq_ok_iff command bytes).mp (encode_eq_ok_iff_laid.mpr laid)).2

theorem parse?_eq_some_iff_laid : parse? bytes = some command ↔ command.Laid bytes := by
  constructor
  · intro parsed
    unfold parse? at parsed
    split at parsed
    · rename_i body
      rcases Option.map_eq_some_iff.mp parsed with ⟨⟨data, expected⟩, inside, rfl⟩
      exact ⟨body, rfl, parseBody?_eq_some_iff.mp inside⟩
    · cases parsed
  · rintro ⟨body, rfl, laid⟩
    simp [parse?, parseBody?_eq_some_iff.mpr laid]

theorem encode_refused_iff :
    (∃ error, command.encode = .error error ∧ error.kind = .invalidArgument) ↔
      255 < command.data.length := by
  constructor
  · rintro ⟨error, refused, _⟩
    exact ((encode_eq_error_iff command error).mp refused).1
  · intro long
    exact ⟨_, (encode_eq_error_iff command _).mpr ⟨long, rfl⟩, rfl⟩

theorem encode_accepted_iff : (∃ bytes, command.encode = .ok bytes) ↔ command.data.length ≤ 255 := by
  constructor
  · rintro ⟨bytes, encoded⟩
    exact ((encode_eq_ok_iff command bytes).mp encoded).1
  · intro fits
    exact ⟨command.frame, (encode_eq_ok_iff _ _).mpr ⟨fits, rfl⟩⟩

end Command

namespace Response

variable {raw : Bytes}

theorem decode_refused_iff :
    (∃ error, decode raw = .error error ∧ error.kind = .malformedResponse) ↔ raw.length < 2 := by
  constructor
  · rintro ⟨error, refused, _⟩
    exact ((decode_eq_error_iff raw error).mp refused).1
  · intro short
    exact ⟨_, (decode_eq_error_iff raw _).mpr ⟨short, rfl⟩, rfl⟩

theorem decode_accepted_iff : (∃ response, decode raw = .ok response) ↔ 2 ≤ raw.length := by
  constructor
  · rintro ⟨response, decoded⟩
    rw [(decode_eq_ok_iff raw response).mp decoded, encode, List.length_append]
    exact Nat.le_add_left 2 _
  · intro long
    cases outcome : decode raw with
    | ok response => exact ⟨response, rfl⟩
    | error error =>
        have short := ((decode_eq_error_iff raw error).mp outcome).1
        omega

end Response

/-- Frames can be read in one way only. A command is refused exactly if it has too much data; any other
is determined by its bytes, reading them gives it back, and the bytes that can arise are those of the
layouts. A response is refused exactly if it is too short for a status word, and any other is the data
in front of that word. -/
theorem formats_uniquely_decodable (command other : Command) (bytes raw data : Bytes)
    (high low : UInt8) (response : Response) :
    (((∃ error, command.encode = .error error ∧ error.kind = .invalidArgument) ↔
          255 < command.data.length) ∧
        ((∃ sent, command.encode = .ok sent) ↔ command.data.length ≤ 255) ∧
        (command.encode = .ok bytes ↔ command.Laid bytes) ∧
        (Command.parse? bytes = some command ↔ command.encode = .ok bytes) ∧
        (command.encode = .ok bytes → other.encode = .ok bytes → command = other) ∧
        ((∃ source : Command, source.encode = .ok bytes) ↔
          ∃ cla ins p1 p2 body, bytes = cla :: ins :: p1 :: p2 :: body ∧
            ∃ carried expected, Command.Body body carried expected)) ∧
      ((∃ error, Response.decode raw = .error error ∧ error.kind = .malformedResponse) ↔
          raw.length < 2) ∧
        ((∃ read, Response.decode raw = .ok read) ↔ 2 ≤ raw.length) ∧
        (Response.decode (data ++ [high, low]) = .ok ⟨data, Word.ofBytes high low⟩ ∧
          Word.bytes (Word.ofBytes high low) = [high, low]) ∧
        (Response.decode raw = .ok response ↔ response.data ++ Word.bytes response.status = raw) := by
  have read (source : Command) : Command.parse? bytes = some source ↔ source.encode = .ok bytes :=
    Command.parse?_eq_some_iff_laid.trans Command.encode_eq_ok_iff_laid.symm
  refine ⟨⟨Command.encode_refused_iff, Command.encode_accepted_iff, Command.encode_eq_ok_iff_laid,
    read command, ?_, ?_⟩, Response.decode_refused_iff, Response.decode_accepted_iff, ?_, ?_⟩
  · intro encoded encodedToo
    exact Option.some.inj (((read command).mpr encoded).symm.trans ((read other).mpr encodedToo))
  · constructor
    · rintro ⟨source, encoded⟩
      rcases Command.encode_eq_ok_iff_laid.mp encoded with ⟨body, same, laid⟩
      exact ⟨_, _, _, _, body, same, _, _, laid⟩
    · rintro ⟨cla, ins, p1, p2, body, same, carried, expected, laid⟩
      exact ⟨⟨cla, ins, p1, p2, carried, expected⟩,
        Command.encode_eq_ok_iff_laid.mpr ⟨body, same, laid⟩⟩
  · exact ⟨Response.decode_append data high low, by
      rw [Word.bytes, Word.high_ofBytes, Word.low_ofBytes]⟩
  · rw [Response.decode_eq_ok_iff]
    exact eq_comm

theorem trailing_byte_told_apart :
    let pair : Command := ⟨0x80, 0x10, 0, 0, [7, 9], none⟩
    let single : Command := ⟨0x80, 0x10, 0, 0, [7], some 9⟩
    pair.encode = .ok [0x80, 0x10, 0, 0, 2, 7, 9] ∧ single.encode = .ok [0x80, 0x10, 0, 0, 1, 7, 9] ∧
      (single.encode = .ok [0x80, 0x10, 0, 0, 2, 7, 9] → pair = single) ∧
      Command.parse? [0x80, 0x10, 0, 0, 1, 7, 9] = some single := by
  intro pair single
  have first := formats_uniquely_decodable pair single [0x80, 0x10, 0, 0, 2, 7, 9] [] [] 0 0 ⟨[], 0⟩
  have second := formats_uniquely_decodable single pair [0x80, 0x10, 0, 0, 1, 7, 9] [] [] 0 0 ⟨[], 0⟩
  exact ⟨rfl, rfl, first.1.2.2.2.2.1 rfl, second.1.2.2.2.1.mpr rfl⟩

end CardVault
