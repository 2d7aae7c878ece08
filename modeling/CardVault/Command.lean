import CardVault.Field

/-!
The frames of an exchange. A command is four header bytes, then its data behind a length byte, then
the expected length of the answer; a zero byte stands before the expected length where there is no
data. A response is its data followed by the status word. `Command.parse?` reads commands back.
-/

namespace CardVault

structure Command where
  cla : UInt8
  ins : UInt8
  p1 : UInt8
  p2 : UInt8
  data : Bytes
  expected : Option UInt8
deriving DecidableEq, Repr

namespace Command

def bare (cla ins : UInt8) : Command :=
  ⟨cla, ins, 0, 0, [], none⟩

def header (command : Command) : Bytes :=
  [command.cla, command.ins, command.p1, command.p2]

def body (command : Command) : Bytes :=
  match command.data, command.expected with
  | [], none => []
  | [], some expected => [0, expected]
  | data, expected => Field.encode data ++ expected.toList

def encode (command : Command) : Except ProtocolError Bytes :=
  if command.data.length > 255 then .error (.commandTooLong command.data.length)
  else .ok (command.header ++ command.body)

def frame (command : Command) : Bytes :=
  command.header ++ command.body

def parseBody? : Bytes → Option (Bytes × Option UInt8)
  | [] => some ([], none)
  | 0 :: rest =>
      match rest with
      | [expected] => some ([], some expected)
      | _ => none
  | size :: rest =>
      match Field.take? (size :: rest) with
      | some (data, []) => some (data, none)
      | some (data, [expected]) => some (data, some expected)
      | _ => none

def parse? : Bytes → Option Command
  | cla :: ins :: p1 :: p2 :: body =>
      (parseBody? body).map fun (data, expected) => ⟨cla, ins, p1, p2, data, expected⟩
  | _ => none

/-- The data that a frame carries. -/
def payload (frame : Bytes) : Bytes :=
  ((parse? frame).map (·.data)).getD []

theorem encode_eq_ok_iff (command : Command) (bytes : Bytes) :
    command.encode = .ok bytes ↔ command.data.length ≤ 255 ∧ bytes = command.frame := by
  unfold encode frame
  split
  · simp
    omega
  · simp [eq_comm]
    omega

theorem encode_eq_error_iff (command : Command) (error : ProtocolError) :
    command.encode = .error error ↔
      255 < command.data.length ∧ error = .commandTooLong command.data.length := by
  unfold encode
  split
  · simp [eq_comm]
    omega
  · simp
    omega

-- A length byte of zero would be taken for the absence of data, so data that is there has to show.
theorem parseBody?_filled (data : Bytes) (expected : Option UInt8) (filled : data ≠ [])
    (fits : data.length ≤ 255) :
    parseBody? (Field.encode data ++ expected.toList) = some (data, expected) := by
  have positive : 0 < data.length := List.length_pos_iff.mpr filled
  have size : UInt8.ofNat data.length ≠ 0 := by
    intro zero
    have same := congrArg UInt8.toNat zero
    simp at same
    omega
  have taken := Field.take?_encode data expected.toList fits
  simp only [Field.encode, List.cons_append] at taken ⊢
  rw [parseBody?, taken]
  · cases expected <;> rfl
  · exact fun zero => size zero

theorem parseBody?_body (command : Command) (fits : command.data.length ≤ 255) :
    parseBody? command.body = some (command.data, command.expected) := by
  unfold body
  split
  · simp_all [parseBody?]
  · simp_all [parseBody?]
  · rename_i neither onlyExpected
    apply parseBody?_filled _ _ _ fits
    intro empty
    cases wait : command.expected with
    | none => exact neither empty wait
    | some expected => exact onlyExpected expected empty wait

theorem parse?_frame (command : Command) (fits : command.data.length ≤ 255) :
    parse? command.frame = some command := by
  simp [frame, header, parse?, parseBody?_body command fits]

theorem payload_frame (command : Command) (fits : command.data.length ≤ 255) :
    payload command.frame = command.data := by
  simp [payload, parse?_frame command fits]

theorem frame_length (command : Command) : 4 ≤ command.frame.length := by
  simp [frame, header]

theorem frame_length_le {command : Command} (silent : command.expected = none) :
    command.frame.length ≤ 5 + command.data.length := by
  unfold frame header body
  split
  · simp only [List.length_append, List.length_cons, List.length_nil]
    omega
  · rename_i waits
    cases silent.symm.trans waits
  · rw [silent]
    simp [Field.encode]
    omega

end Command

structure Response where
  data : Bytes
  status : StatusWord
deriving DecidableEq, Repr

namespace Response

def decode (raw : Bytes) : Except ProtocolError Response :=
  match raw.reverse with
  | low :: high :: data => .ok ⟨data.reverse, Word.ofBytes high low⟩
  | _ => .error .responseTooShort

def encode (response : Response) : Bytes :=
  response.data ++ Word.bytes response.status

theorem decode_append (data : Bytes) (high low : UInt8) :
    decode (data ++ [high, low]) = .ok ⟨data, Word.ofBytes high low⟩ := by
  simp [decode]

theorem decode_eq_ok_iff (raw : Bytes) (response : Response) :
    decode raw = .ok response ↔ raw = response.encode := by
  constructor
  · intro decoded
    unfold decode at decoded
    split at decoded
    · rename_i low high data backwards
      cases decoded
      have forwards := congrArg List.reverse backwards
      simpa [encode, Word.bytes, Word.high_ofBytes, Word.low_ofBytes] using forwards
    · contradiction
  · intro encoded
    subst encoded
    simp [encode, Word.bytes, decode_append, Word.ofBytes_high_low]

theorem decode_eq_error_iff (raw : Bytes) (error : ProtocolError) :
    decode raw = .error error ↔ raw.length < 2 ∧ error = .responseTooShort := by
  have size : raw.reverse.length = raw.length := List.length_reverse
  unfold decode
  split
  · rename_i backwards
    simp only [backwards, List.length_cons] at size
    simp
    omega
  · rename_i short
    cases backwards : raw.reverse with
    | nil => simp_all [eq_comm]
    | cons low rest =>
        cases rest with
        | nil =>
            simp only [backwards, List.length_cons, List.length_nil] at size
            simp [← size, eq_comm]
        | cons high data => exact absurd backwards (short low high data)

end Response

end CardVault
