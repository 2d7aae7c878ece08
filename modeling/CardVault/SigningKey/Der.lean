import CardVault.Word

/-!
Tagged elements as they are written: a tag, a length and that many bytes, which may be elements
again. A length below 128 is one byte, a longer one is written in as many bytes as the first one says.
-/

namespace CardVault

structure Tag where
  kind : UInt8
  number : Nat
deriving DecidableEq, Repr

namespace Tag

def integer : Tag := ⟨0, 2⟩

def bits : Tag := ⟨0, 3⟩

def octets : Tag := ⟨0, 4⟩

def identifier : Tag := ⟨0, 6⟩

def sequence : Tag := ⟨0, 16⟩

def set : Tag := ⟨0, 17⟩

def place (number : Nat) : Tag := ⟨0x80, number⟩

end Tag

namespace Der

def writeLength (length : Nat) : Bytes :=
  if length < 128 then [UInt8.ofNat length]
  else UInt8.ofNat (128 + Number.width length) :: Number.toBytes (Number.width length) length

def write (tag : Tag) (content : Bytes) : Bytes :=
  let first := tag.kind + UInt8.ofNat tag.number
  (if tag = .sequence then first + 0x20 else first) :: writeLength content.length ++ content

def writeNatural (number : Nat) : Bytes :=
  write .integer (Number.toBytes (Number.bits number / 8 + 1) number)

end Der

/-!
Tagged elements as they are read. More is read than is ever written: numbers of tags and lengths may
be longer than needed, an element may go on to a mark of its end instead of having a length, and a
text may come in pieces. A reader takes bytes from the front and leaves the others.
-/

abbrev Reader := StateT Bytes Option

/-- What stands in front of the content of an element. One without a length ends with a mark. -/
structure Header where
  tag : Tag
  isComposed : Bool
  length? : Option Nat
deriving DecidableEq, Repr

/-- An element of any kind, and all of its bytes. The content is there where it has no parts. -/
structure Element where
  tag : Tag
  content : Bytes
  whole : Bytes
deriving DecidableEq, Repr

namespace Reader

variable {α : Type}

/-- The number of a tag in groups of seven bits, as long as it is not beyond 31 bits. -/
def readGroups? (before : Nat) : Bytes → Option (Nat × Bytes)
  | [] => none
  | byte :: rest =>
      let number := 128 * before + byte.toNat % 128
      if byte < 128 then some (number, rest)
      else if number ≥ 0x1000000 then none
      else readGroups? number rest

def readTag? : Bytes → Option (Tag × Bool × Bytes)
  | [] => none
  | byte :: rest =>
      let kind := byte &&& 0xC0
      let isComposed := byte &&& 0x20 ≠ 0
      let number := byte.toNat % 32
      if number < 31 then some (⟨kind, number⟩, isComposed, rest)
      else (readGroups? 0 rest).map fun (number, rest) => (⟨kind, number⟩, isComposed, rest)

-- A length of several bytes has to be followed by something, even where it is zero.
def readLength? : Bytes → Option (Option Nat × Bytes)
  | [] => none
  | first :: rest =>
      let places := first.toNat - 128
      if first = 128 then some (none, rest)
      else if first < 128 then some (some first.toNat, rest)
      else if rest.length ≤ places then none
      else some (some (Number.ofBytes (rest.take places)), rest.drop places)

def lead : Reader Header := fun bytes => do
  let (tag, isComposed, afterTag) ← readTag? bytes
  let (length?, rest) ← readLength? afterTag
  if length? = none ∧ isComposed = false then none
  else some (⟨tag, isComposed, length?⟩, rest)

def header : Reader Header := fun bytes => do
  let (header, rest) ← lead bytes
  if rest.length < header.length?.getD 0 then none else some (header, rest)

def atEnd : Bytes → Bool
  | [] => true
  | first :: rest => first == 0 && rest.head? == some 0

def enclosed (inside : Reader α) (header : Header) : Reader α := fun bytes =>
  match header.length? with
  | some length =>
      match inside (bytes.take length) with
      | some (value, []) => some (value, bytes.drop length)
      | _ => none
  | none =>
      match inside bytes with
      | some (value, 0 :: 0 :: rest) => some (value, rest)
      | _ => none

def composed (inside : Reader α) (header : Header) : Reader α :=
  if header.isComposed then enclosed inside header else failure

def plain (header : Header) : Reader Bytes := fun bytes =>
  let length := header.length?.getD 0
  if header.isComposed then none else some (bytes.take length, bytes.drop length)

def repeatAtMost (item : Reader α) : Nat → Reader (List α)
  | 0 => pure []
  | count + 1 => fun bytes =>
      if atEnd bytes then some ([], bytes)
      else do
        let (first, rest) ← item bytes
        let (others, after) ← repeatAtMost item count rest
        some (first :: others, after)

def many (item : Reader α) : Reader (List α) := fun bytes =>
  repeatAtMost item bytes.length bytes

def piecesWithin : Nat → Header → Reader Bytes
  | 0, header => plain header
  | depth + 1, header =>
      if header.isComposed then
        enclosed (do
          let pieces ← many (do piecesWithin depth (← Reader.header))
          return pieces.flatten) header
      else plain header

def pieces : Header → Reader Bytes :=
  piecesWithin 6

def skipMarks : Nat → Nat → Reader Unit
  | _, 0 => pure ()
  | 0, _ + 1 => failure
  | fuel + 1, marks + 1 => fun bytes =>
      match bytes with
      | 0 :: 0 :: rest => skipMarks fuel marks rest
      | _ => do
          let (header, rest) ← header bytes
          match header.length? with
          | some length => skipMarks fuel (marks + 1) (rest.drop length)
          | none => skipMarks fuel (marks + 2) rest

def skip (header : Header) : Reader Unit := fun bytes =>
  match header.length? with
  | some length => some ((), bytes.drop length)
  | none => skipMarks bytes.length 1 bytes

def element (tag : Tag) (inside : Header → Reader α) : Reader α := do
  let header ← header
  if header.tag = tag then inside header else failure

/-- An element with the given tag, if there is one. Anything else in its place has to be well formed
as well. -/
def optional (tag : Tag) (inside : Header → Reader α) : Reader (Option α) := fun bytes =>
  if bytes = [] then some (none, bytes)
  else match header bytes with
    | none => none
    | some (header, rest) =>
        if header.tag = tag then (some <$> inside header) rest else some (none, bytes)

def sequence (inside : Reader α) : Reader α :=
  element .sequence (composed inside)

def isWhole : Bytes → Bool
  | [] => false
  | [_] => true
  | first :: second :: _ => !(first == 0 && second < 128) && !(first == 255 && second ≥ 128)

def isIdentifier (bytes : Bytes) : Bool :=
  bytes.getLast?.any (· < 128) &&
    ((0 :: bytes).zip bytes).all fun (before, byte) => !(byte == 128 && before < 128)

def whole : Reader Bytes := do
  let bytes ← element .integer plain
  if isWhole bytes then pure bytes else failure

def natural : Reader Nat := do
  return Number.ofBytes (← element .integer plain)

def signed (bytes : Bytes) : Int :=
  if bytes.head?.any (· ≥ 128) then Number.ofBytes bytes - (1 <<< (8 * bytes.length) : Nat)
  else Number.ofBytes bytes

def isSmall (bytes : Bytes) : Bool :=
  bytes.isEmpty ||
    isWhole bytes && decide (-0x80000000 ≤ signed bytes) && decide (signed bytes < 0x80000000)

def small : Reader Int := do
  let bytes ← element .integer plain
  if isSmall bytes then pure (signed bytes) else failure

def octets : Reader Bytes :=
  element .octets pieces

def identifier : Reader Bytes := do
  let bytes ← element .identifier plain
  if isIdentifier bytes then pure bytes else failure

def bitBytes? : Bytes → Option Bytes
  | [] => none
  | unused :: bytes =>
      if unused > 7 then none
      else some (bytes.dropLast ++ bytes.getLast?.toList.map fun last =>
        (last >>> unused) <<< unused)

def bits (header : Header) : Reader Bytes := do
  match bitBytes? (← pieces header) with
  | some bytes => pure bytes
  | none => failure

def isGood (number : Nat) (bytes : Bytes) : Bool :=
  match number with
  | 1 => bytes.length == 1
  | 2 | 10 => isWhole bytes
  | 3 => (bitBytes? bytes).isSome
  | 5 => bytes.isEmpty
  | 6 => isIdentifier bytes
  | 28 => bytes.length % 4 == 0
  | 30 => bytes.length % 2 == 0
  | _ => true

/-- The content of an element of any kind. What has parts, or no general meaning, stays unread. -/
def anyContent (header : Header) : Reader Bytes := do
  let number := header.tag.number
  if header.tag.kind ≠ 0 then
    skip header
    return []
  else if number = 16 ∨ number = 17 then
    if header.isComposed then
      skip header
      return []
    else failure
  else
    let atomic := [1, 2, 5, 6, 10].contains number
    let bytes ← if atomic then plain header else pieces header
    if isGood number bytes then pure bytes else failure

def any : Reader Element := fun bytes => do
  let (header, rest) ← header bytes
  let (content, after) ← anyContent header rest
  some (⟨header.tag, content, bytes.take (bytes.length - after.length)⟩, after)

def window : Nat := 8

def frontWithin : Nat → Nat → Bytes → Option Bytes
  | 0, _, _ => none
  | fuel + 1, marks, bytes => do
      let seen := bytes.take window
      let (header, unused) ← lead seen
      let size := seen.length - unused.length + header.length?.getD 0
      let isMark := header.length? = some 0 ∧ header.tag.number = 0
      let others (marks : Nat) : Option Bytes :=
        (frontWithin fuel marks (bytes.drop size)).map (bytes.take size ++ ·)
      if bytes.length < size then none
      else if header.length? = none then others (marks + 1)
      else if marks = 0 ∨ marks = 1 ∧ isMark then
        some ((bytes ++ List.replicate window 0).take (max size window))
      else others (if isMark then marks - 1 else marks)

/-- The bytes of the element in front, where its end is found from headers alone. Anything that is
empty and has the number zero is taken for a mark. What was looked at last is kept, and there are
zeros after the last byte. -/
def front? (bytes : Bytes) : Option Bytes :=
  frontWithin bytes.length 0 bytes

def value? (reader : Reader α) (bytes : Bytes) : Option α :=
  (reader bytes).map Prod.fst

end Reader

end CardVault
