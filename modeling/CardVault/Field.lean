import CardVault.Failure

/-!
Fields inside the data of a frame: a field preceded by its length in one byte, and a word of two
bytes, high byte first. `Field.take?` reads one field back and leaves the rest.
-/

namespace CardVault

namespace Field

/-- A field with its length in front, for a field of at most 255 bytes. -/
def encode (field : Bytes) : Bytes :=
  UInt8.ofNat field.length :: field

def append (before field : Bytes) : Except ProtocolError Bytes :=
  if field.length > 255 then .error (.fieldTooLong field.length)
  else .ok (before ++ encode field)

def take? : Bytes → Option (Bytes × Bytes)
  | [] => none
  | size :: rest =>
      if size.toNat ≤ rest.length then some (rest.take size.toNat, rest.drop size.toNat) else none

def parse? : Nat → Bytes → Option (List Bytes)
  | 0, [] => some []
  | 0, _ :: _ => none
  | count + 1, bytes =>
      match take? bytes with
      | some (field, rest) => (parse? count rest).map (field :: ·)
      | none => none

theorem take?_encode (field rest : Bytes) (short : field.length ≤ 255) :
    take? (encode field ++ rest) = some (field, rest) := by
  have size : field.length % 256 = field.length := Nat.mod_eq_of_lt (by omega)
  simp [encode, take?, size]

theorem take?_eq_some_iff (bytes field rest : Bytes) :
    take? bytes = some (field, rest) ↔ field.length ≤ 255 ∧ bytes = encode field ++ rest := by
  constructor
  · intro taken
    cases bytes with
    | nil => cases taken
    | cons size tail =>
        have bound := size.toNat_lt
        by_cases enough : size.toNat ≤ tail.length
        · simp only [take?, enough, ↓reduceIte, Option.some.injEq, Prod.mk.injEq] at taken
          rcases taken with ⟨rfl, rfl⟩
          have counted : (tail.take size.toNat).length = size.toNat :=
            List.length_take_of_le enough
          constructor
          · omega
          · simp [encode, counted]
        · simp [take?, enough] at taken
  · rintro ⟨short, rfl⟩
    exact take?_encode field rest short

theorem parse?_eq_some_iff (count : Nat) (bytes : Bytes) (fields : List Bytes) :
    parse? count bytes = some fields ↔
      fields.length = count ∧ (∀ field ∈ fields, field.length ≤ 255) ∧
        bytes = fields.flatMap encode := by
  induction count generalizing bytes fields with
  | zero => cases bytes <;> cases fields <;> simp [parse?]
  | succ count ih =>
      constructor
      · intro parsed
        cases taken : take? bytes with
        | none => simp [parse?, taken] at parsed
        | some split =>
            rcases split with ⟨field, rest⟩
            simp only [parse?, taken, Option.map_eq_some_iff] at parsed
            rcases parsed with ⟨later, parsed, rfl⟩
            rcases (ih rest later).mp parsed with ⟨counted, short, rfl⟩
            rcases (take?_eq_some_iff _ _ _).mp taken with ⟨fits, rfl⟩
            exact ⟨congrArg (· + 1) counted, List.forall_mem_cons.mpr ⟨fits, short⟩,
              List.flatMap_cons.symm⟩
      · rintro ⟨counted, short, rfl⟩
        cases fields with
        | nil => cases counted
        | cons field later =>
            rcases List.forall_mem_cons.mp short with ⟨fits, short⟩
            have taken := take?_encode field (later.flatMap encode) fits
            have parsed := (ih (later.flatMap encode) later).mpr
              ⟨Nat.succ.inj counted, short, rfl⟩
            simp [parse?, taken, parsed]

theorem flatMap_encode_inj {fields others : List Bytes}
    (short : ∀ field ∈ fields, field.length ≤ 255) (shortToo : ∀ field ∈ others, field.length ≤ 255) :
    fields.flatMap encode = others.flatMap encode ↔ fields = others := by
  constructor
  · intro same
    induction fields generalizing others with
    | nil =>
        cases others with
        | nil => rfl
        | cons other later => cases same
    | cons field rest ih =>
        cases others with
        | nil => cases same
        | cons other later =>
            rcases List.forall_mem_cons.mp short with ⟨fits, remaining⟩
            rcases List.forall_mem_cons.mp shortToo with ⟨fitsToo, remainingToo⟩
            -- The same bytes are read, so the first fields are the same, and what follows them is too.
            have taken := take?_encode field (rest.flatMap encode) fits
            have takenToo := take?_encode other (later.flatMap encode) fitsToo
            rw [← List.flatMap_cons, ← same, List.flatMap_cons, taken] at takenToo
            rcases Prod.mk.inj (Option.some.inj takenToo) with ⟨rfl, onward⟩
            rw [ih remaining remainingToo onward]
  · exact congrArg _

end Field

namespace Word

-- The end of the word is computed in 64 bits. From the last two offsets it wraps round to the front
-- and passes the bound although no word is there, which the answer then shows as `none`.
def read (data : Bytes) (offset : UInt64) : Except ProtocolError (Option UInt16) :=
  if (offset + 2).toNat > data.length then .error .wordMissing
  else .ok (at? data offset.toNat)

/-- The byte at an offset in memory, counted from the front of some data; `around` is what lies in
memory outside the data. Offsets wrap round, so the largest of them are right in front of the data. -/
def byteAt (around : UInt64 → UInt8) (data : Bytes) (offset : UInt64) : UInt8 :=
  data[offset.toNat]?.getD (around offset)

/-- The word that a machine reads, which takes its two bytes wherever they lie once the bound is
passed. -/
def load (around : UInt64 → UInt8) (data : Bytes) (offset : UInt64) : Except ProtocolError UInt16 :=
  if (offset + 2).toNat > data.length then .error .wordMissing
  else .ok (ofBytes (byteAt around data offset) (byteAt around data (offset + 1)))

end Word

end CardVault
