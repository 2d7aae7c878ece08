import CardVault.Transfer.Steps

/-!
What names a record on the wire. Signed bytes do not show where a user name ends and an address begins,
so which record is meant rests on the fields of INIT alone. Each field shows where it ends, whatever
bytes it holds, and so the text of some fields is the text of no others.
-/

namespace CardVault

open Dialogue

variable {σ τ : Type} {frame : Bytes}

namespace Field

/-- Appends a field in place to a buffer, which outlives a refusal. -/
def push (field : Bytes) : ExceptT ProtocolError (StateM Bytes) Unit := do
  if field.length > 255 then
    throw (.fieldTooLong field.length)
  modify (· ++ [UInt8.ofNat field.length])
  modify (· ++ field)

theorem push_run (field buffer : Bytes) :
    (push field).run.run buffer =
      match append buffer field with
      | .ok after => (.ok (), after)
      | .error error => (.error error, buffer) := by
  by_cases long : field.length > 255
  · simp only [push, append, long, ↓reduceIte]
    rfl
  · have whole : buffer ++ encode field = buffer ++ [UInt8.ofNat field.length] ++ field := by
      simp [encode]
    simp only [push, append, long, ↓reduceIte]
    rw [whole]
    rfl

theorem push_refused {field : Bytes} (long : 255 < field.length) (buffer : Bytes) :
    (push field).run.run buffer = (.error (.fieldTooLong field.length), buffer) := by
  rw [push_run, append, if_pos long]

theorem forM_push_run (fields : List Bytes) (short : ∀ field ∈ fields, field.length ≤ 255)
    (buffer : Bytes) :
    (forM fields push).run.run buffer = (.ok (), buffer ++ fields.flatMap encode) := by
  induction fields generalizing buffer with
  | nil =>
      rw [List.flatMap_nil, List.append_nil]
      rfl
  | cons field rest ih =>
      rcases List.forall_mem_cons.mp short with ⟨fits, remaining⟩
      have first : (push field).run.run buffer = (.ok (), buffer ++ encode field) := by
        rw [push_run, append, if_neg (Nat.not_lt.mpr fits)]
      have later := ih remaining (buffer ++ encode field)
      simp only [List.forM_cons, ExceptT.run_bind, StateT.run_bind, first, List.flatMap_cons,
        ← List.append_assoc]
      exact later

end Field

namespace RecordKey

def fields (key : RecordKey) : List Bytes :=
  [key.username, key.address]

theorem fields_short (key : RecordKey) : ∀ field ∈ key.fields, field.length ≤ 255 := by
  simp [fields, key.username_short, key.address_short]

theorem fields_inj (key other : RecordKey) : key.fields = other.fields ↔ key = other := by
  constructor
  · intro same
    cases key
    cases other
    cases same
    rfl
  · exact congrArg fields

theorem wire_eq_fields (key : RecordKey) : key.wire = key.fields.flatMap Field.encode := by
  simp [wire, fields]

theorem parse?_wire (key : RecordKey) : Field.parse? 2 key.wire = some key.fields :=
  (Field.parse?_eq_some_iff _ _ _).mpr ⟨rfl, key.fields_short, key.wire_eq_fields⟩

theorem wire_inj (key other : RecordKey) : key.wire = other.wire ↔ key = other := by
  rw [wire_eq_fields, wire_eq_fields, Field.flatMap_encode_inj key.fields_short other.fields_short,
    fields_inj]

end RecordKey

namespace Envelope

variable {envelope other : Envelope}

def fields (envelope : Envelope) : List Bytes :=
  envelope.key.fields ++ [envelope.signature]

theorem fields_short (short : envelope.signature.length ≤ 255) :
    ∀ field ∈ envelope.fields, field.length ≤ 255 :=
  List.forall_mem_append.mpr ⟨envelope.key.fields_short, List.forall_mem_singleton.mpr short⟩

theorem fields_inj (envelope other : Envelope) :
    envelope.fields = other.fields ↔
      envelope.key = other.key ∧ envelope.signature = other.signature := by
  rw [← RecordKey.fields_inj]
  simp [fields, RecordKey.fields, and_assoc]

theorem wire_eq_ok_iff (envelope : Envelope) (data : Bytes) :
    envelope.wire = .ok data ↔
      envelope.signature.length ≤ 255 ∧ data = envelope.fields.flatMap Field.encode := by
  by_cases long : envelope.signature.length > 255
  · simp only [wire, Field.append, long, ↓reduceIte, reduceCtorEq, false_iff, not_and]
    omega
  · have short := Nat.not_lt.mp long
    have written : envelope.key.wire ++ Field.encode envelope.signature =
        envelope.fields.flatMap Field.encode := by
      simp [fields, RecordKey.wire_eq_fields]
    rw [wire_short short, written]
    simp [short, eq_comm]

theorem parse?_wire (envelope : Envelope) {data : Bytes} (written : envelope.wire = .ok data) :
    Field.parse? 3 data = some envelope.fields := by
  rcases (wire_eq_ok_iff envelope data).mp written with ⟨short, rfl⟩
  exact (Field.parse?_eq_some_iff _ _ _).mpr ⟨rfl, fields_short short, rfl⟩

theorem wire_inj (short : envelope.signature.length ≤ 255) (shortToo : other.signature.length ≤ 255) :
    envelope.wire = other.wire ↔
      envelope.key = other.key ∧ envelope.signature = other.signature := by
  have written := (wire_eq_ok_iff other _).mpr ⟨shortToo, rfl⟩
  rw [written, wire_eq_ok_iff, ← fields_inj,
    ← Field.flatMap_encode_inj (fields_short short) (fields_short shortToo)]
  simp [short, eq_comm]

theorem fields_ne_key (envelope : Envelope) (short : envelope.signature.length ≤ 255)
    (key : RecordKey) :
    key.fields.flatMap Field.encode ≠ envelope.fields.flatMap Field.encode := by
  intro same
  have equal := (Field.flatMap_encode_inj key.fields_short (fields_short short)).mp same
  have counted := congrArg List.length equal
  simp [fields, RecordKey.fields] at counted

end Envelope

namespace Transfer

theorem exchangeFor_payload {α : Type} {purpose : Purpose} {command : Command}
    {change : Except Fault Response → α} {peer : Peer σ} {state : σ}
    (sent : frame ∈ (((exchangeFor purpose command).map change).run peer state).sent) :
    Command.payload frame = command.data := by
  rw [exchangeFor_sent] at sent
  by_cases fits : command.data.length ≤ 255
  · rw [if_pos fits] at sent
    rw [List.mem_singleton.mp sent]
    exact Command.payload_frame command fits
  · rw [if_neg fits] at sent
    cases sent

variable {settings : Settings} {peer : Peer σ} {state : σ}

theorem beginStore_payload {key : RecordKey}
    (sent : frame ∈ ((beginStore settings key).run peer state).sent) :
    Command.payload frame = key.fields.flatMap Field.encode := by
  rw [exchangeFor_payload sent, ← key.wire_eq_fields]
  rfl

theorem beginRead_payload {envelope : Envelope}
    (sent : frame ∈ ((beginRead settings envelope).run peer state).sent) :
    Command.payload frame = envelope.fields.flatMap Field.encode := by
  cases wire : envelope.wire with
  | error error =>
      simp only [beginRead, wire] at sent
      cases sent
  | ok data =>
      simp only [beginRead, wire] at sent
      rw [exchangeFor_payload sent]
      exact ((envelope.wire_eq_ok_iff data).mp wire).2

end Transfer

/-- The fields of INIT say which record is meant. They are appended in turn, and a reader of fields gets
back the key, and with it the signature of a read, and nothing is left over; so different keys and
different envelopes have different texts, and what opens a read never opens a store. A field that is
too long is refused, and the buffer that it was meant for is as before. -/
theorem wire_self_delimiting (key : RecordKey) (envelope : Envelope)
    (short : envelope.signature.length ≤ 255) :
    (forM key.fields Field.push).run.run [] = (.ok (), key.wire) ∧
    Field.parse? 2 key.wire = some [key.username, key.address] ∧
    (∃ data, envelope.wire = .ok data ∧
      (forM envelope.fields Field.push).run.run [] = (.ok (), data) ∧
      Field.parse? 3 data =
        some [envelope.key.username, envelope.key.address, envelope.signature]) ∧
    (∀ other : RecordKey, key.wire = other.wire ↔ key = other) ∧
    (∀ other : Envelope, other.signature.length ≤ 255 →
      (envelope.wire = other.wire ↔
        envelope.key = other.key ∧ envelope.signature = other.signature)) ∧
    envelope.wire ≠ .ok key.wire ∧
    (∀ (storing reading : Settings) (card : Peer σ) (before : σ) (other : Peer τ) (elsewhere : τ),
      ∀ opens ∈ ((Transfer.beginStore storing key).run card before).sent,
      ∀ asks ∈ ((Transfer.beginRead reading envelope).run other elsewhere).sent,
        Command.payload opens ≠ Command.payload asks) ∧
    ∀ field buffer : Bytes, 255 < field.length → ∃ error : ProtocolError,
      error.kind = .invalidArgument ∧ Field.append buffer field = .error error ∧
        (Field.push field).run.run buffer = (.error error, buffer) := by
  have written := (envelope.wire_eq_ok_iff _).mpr ⟨short, rfl⟩
  have apart := envelope.fields_ne_key short key
  refine ⟨?_, key.parse?_wire, ⟨_, written, ?_, envelope.parse?_wire written⟩, key.wire_inj,
    ?_, ?_, ?_, ?_⟩
  · rw [key.wire_eq_fields]
    exact Field.forM_push_run key.fields key.fields_short []
  · exact Field.forM_push_run envelope.fields (Envelope.fields_short short) []
  · intro other shortToo
    exact Envelope.wire_inj short shortToo
  · intro same
    rw [written, key.wire_eq_fields] at same
    exact apart (Except.ok.inj same).symm
  · intro storing reading card before other elsewhere opens sentOpens asks sentAsks
    rw [Transfer.beginStore_payload sentOpens, Transfer.beginRead_payload sentAsks]
    exact apart
  · intro field buffer long
    exact ⟨_, rfl, if_pos long, Field.push_refused long buffer⟩

theorem split_point_shows :
    let first : RecordKey := ⟨text "ab", text "c", by decide, by decide⟩
    let second : RecordKey := ⟨text "a", text "bc", by decide, by decide⟩
    let card := Peer.steady (.ofBytes [0, 3, 0x90, 0]) (.ok [])
    let storing := (Transfer.beginStore {} first).run card ()
    let reading := (Transfer.beginRead {} ⟨second, [1, 98]⟩).run card ()
    first.canonical = second.canonical ∧ first.wire ≠ second.wire ∧
      Field.parse? 2 first.wire = some [text "ab", text "c"] ∧
      (∃ data, (Envelope.mk second [1, 98]).wire = .ok data ∧
        (forM [text "a", text "bc", [1, 98]] Field.push).run.run [] = (.ok (), data) ∧
        Field.parse? 3 data = some [text "a", text "bc", [1, 98]]) ∧
      storing.sent = [[0x80, 0x10, 0, 0, 5, 2, 97, 98, 1, 99]] ∧
      reading.sent = [[0x80, 0x20, 0, 0, 8, 1, 97, 2, 98, 99, 2, 1, 98]] ∧
      (∀ opens ∈ storing.sent, ∀ asks ∈ reading.sent,
        Command.payload opens ≠ Command.payload asks) ∧
      ∃ error : ProtocolError, error.kind = .invalidArgument ∧
        Field.append first.wire (List.replicate 256 0) = .error error ∧
        (Field.push (List.replicate 256 0)).run.run first.wire = (.error error, first.wire) := by
  intro first second card storing reading
  have different : first ≠ second := by decide
  have long : 255 < (List.replicate 256 (0 : UInt8)).length := by
    rw [List.length_replicate]
    decide
  rcases wire_self_delimiting first ⟨second, [1, 98]⟩ (by decide) with
    ⟨_, stored, asked, distinct, _, _, apart, refused⟩
  exact ⟨rfl, fun same => different ((distinct second).mp same), stored, asked, rfl, rfl,
    apart {} {} card () card (), refused _ _ long⟩

end CardVault
