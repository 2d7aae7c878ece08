import CardVault.Text

/-!
Numbers written in bytes, most significant byte first.
-/

namespace CardVault

namespace Number

def ofBytes (bytes : Bytes) : Nat :=
  bytes.foldl (fun number byte => 256 * number + byte.toNat) 0

-- The words have 256 bits each; the most significant comes first.
def join (words : List Nat) : Nat :=
  words.foldl (fun number word => number <<< 256 + word) 0

def toBytes : Nat → Nat → Bytes
  | 0, _ => []
  | width + 1, number => toBytes width (number / 256) ++ [UInt8.ofNat number]

def bits (number : Nat) : Nat :=
  if number = 0 then 0 else number.log2 + 1

def width (number : Nat) : Nat :=
  (bits number + 7) / 8

def words (number : Nat) : Nat :=
  (bits number + 63) / 64

end Number

/-!
Words of two bytes, high byte first: status words, the announced length of a record and the length
in front of a relay frame are all written this way.
-/

namespace Word

def ofBytes (high low : UInt8) : UInt16 :=
  UInt16.ofNat (256 * high.toNat + low.toNat)

def high (word : UInt16) : UInt8 :=
  UInt8.ofNat (word.toNat / 256)

def low (word : UInt16) : UInt8 :=
  UInt8.ofNat (word.toNat % 256)

def bytes (word : UInt16) : Bytes :=
  [high word, low word]

def at? (data : Bytes) (offset : Nat) : Option UInt16 :=
  match data.drop offset with
  | high :: low :: _ => some (ofBytes high low)
  | _ => none

theorem toNat_ofBytes (high low : UInt8) :
    (ofBytes high low).toNat = 256 * high.toNat + low.toNat := by
  have highBound := high.toNat_lt
  have lowBound := low.toNat_lt
  simp only [ofBytes, UInt16.toNat_ofNat']
  omega

theorem toUInt64_ofBytes (high low : UInt8) :
    (ofBytes high low).toUInt64 = UInt64.ofNat (256 * high.toNat + low.toNat) := by
  apply UInt64.toNat_inj.mp
  have highBound := high.toNat_lt
  have lowBound := low.toNat_lt
  rw [UInt16.toNat_toUInt64, toNat_ofBytes, UInt64.toNat_ofNat']
  omega

theorem ofBytes_high_low (word : UInt16) : ofBytes (high word) (low word) = word := by
  apply UInt16.toNat_inj.mp
  have bound := word.toNat_lt
  simp only [ofBytes, high, low, UInt16.toNat_ofNat', UInt8.toNat_ofNat']
  omega

theorem high_ofBytes (first second : UInt8) : high (ofBytes first second) = first := by
  apply UInt8.toNat_inj.mp
  have firstBound := first.toNat_lt
  have secondBound := second.toNat_lt
  simp only [high, toNat_ofBytes, UInt8.toNat_ofNat']
  omega

theorem low_ofBytes (first second : UInt8) : low (ofBytes first second) = second := by
  apply UInt8.toNat_inj.mp
  have firstBound := first.toNat_lt
  have secondBound := second.toNat_lt
  simp only [low, toNat_ofBytes, UInt8.toNat_ofNat']
  omega

theorem at?_isSome (data : Bytes) (offset : Nat) :
    (at? data offset).isSome = true ↔ offset + 2 ≤ data.length := by
  have size := List.length_drop (i := offset) (l := data)
  unfold at?
  split <;> rename_i shape
  · simp only [shape, List.length_cons] at size
    simp
    omega
  · cases rest : data.drop offset with
    | nil =>
        simp only [rest, List.length_nil] at size
        simp
        omega
    | cons high tail =>
        cases tail with
        | nil =>
            simp only [rest, List.length_cons, List.length_nil] at size
            simp
            omega
        | cons low more => exact absurd rest (shape high low more)

end Word

/-!
Status words: the two bytes that end every answer of the card. `9000` is success, `61xx` says that
more data waits, with `xx` a hint at how much, and every other word is a failure.
-/

abbrev StatusWord := UInt16

namespace StatusWord

inductive Kind where
  | success
  | moreData
  | failure
deriving DecidableEq, Repr

def Kind.name : Kind → Text
  | success => text "SUCCESS"
  | moreData => text "MORE_DATA"
  | failure => text "FAILURE"

def kind (word : StatusWord) : Kind :=
  if word = 0x9000 then .success
  else if Word.high word = 0x61 then .moreData
  else .failure

def isSuccess (word : StatusWord) : Bool :=
  word == 0x9000

/-- How many bytes wait, as far as the card says; the card is not held to it. -/
def hint (word : StatusWord) : UInt8 :=
  if word.kind = .moreData then Word.low word else 0

def describe (word : StatusWord) : Text :=
  if Word.high word = 0x61 then text "More data available"
  else if word = 0x9000 then text "Success"
  else if word = 0x6300 then text "Verification failed"
  else if word = 0x6700 then text "Wrong length"
  else if word = 0x6982 then text "Signature invalid"
  else if word = 0x6985 then text "Conditions of use not satisfied"
  else if word = 0x6A83 then text "Record not found"
  else if word = 0x6A84 then text "Storage full"
  else if word = 0x6A86 then text "Incorrect P1/P2"
  else if word = 0x6D00 then text "Instruction not supported"
  else text "Unrecognized status"

def format (word : StatusWord) : Text :=
  Text.hexWord word

theorem isSuccess_iff_eq (word : StatusWord) : word.isSuccess = true ↔ word = 0x9000 := by
  simp [isSuccess]

theorem isSuccess_iff (word : StatusWord) : word.isSuccess = true ↔ word.kind = .success := by
  unfold isSuccess kind
  split <;> simp_all
  split <;> simp

theorem kind_of_high {word : StatusWord} (more : Word.high word = 0x61) :
    word.kind = .moreData := by
  have unsuccessful : word ≠ 0x9000 := by
    rintro rfl
    revert more
    decide
  simp [kind, unsuccessful, more]

end StatusWord

end CardVault
